import CommandShell.Proofs.Console.Legible
import CommandShell.Proofs.Shell.ExitCode

/-!
Messages about the failure that ends a run. A console without styles shows them with their tags, and
a console with styles shows them as they are exactly when what they say is legible.
-/

namespace CommandShell

namespace Shell

open Markup Text

/-- How a message begins. -/
inductive Heading where
  | error
  | hint
  | unexpected
  deriving DecidableEq, Repr

namespace Heading

/-- A heading with its tags. -/
def markup : Heading → String
  | .error => "[bold red]Error:[/bold red] "
  | .hint => "[yellow]Hint:[/yellow] "
  | .unexpected => "[bold red]Unexpected error.[/bold red] Please report this issue.\n  "

/-- A heading without its tags. -/
def words : Heading → String
  | .error => "Error: "
  | .hint => "Hint: "
  | .unexpected => "Unexpected error. Please report this issue.\n  "

/-- A heading is some words in a style, and plain words or blanks behind them. -/
structure Marked (heading : Heading) (style words gap : List Char) : Prop where
  names : Names style
  wordy : Wordy words
  legible : Legible words
  unmarked : marks gap = 0
  words_eq : heading.words.toList = words ++ gap
  spaced : ∃ start, words ++ gap = start ++ [' '] ∧ Anchored start
  markup_eq : ∀ body : String,
    (heading.markup ++ body).toList = marked [] style words (gap ++ body.toList)

theorem exists_marked (heading : Heading) : ∃ style words gap, heading.Marked style words gap := by
  cases heading with
  | error =>
      exact ⟨_, _, [' '], names_of_mem "bold red" (by decide), wordy_error, by decide, rfl,
        by decide,
        ⟨"Error:".toList, rfl, by decide⟩, toList_error⟩
  | hint =>
      exact ⟨_, _, [' '], names_of_mem "yellow" (by decide), wordy_hint, by decide, rfl, by decide,
        ⟨"Hint:".toList, rfl, by decide⟩, toList_hint⟩
  | unexpected =>
      exact ⟨_, _, _, names_of_mem "bold red" (by decide), wordy_unexpected, by decide, by decide,
        by decide, ⟨"Unexpected error. Please report this issue.\n ".toList,
          by decide, by decide⟩, toList_unexpected⟩

end Heading

/-- The messages about a failure, by their headings. -/
def messages (failure : Failure) : List (Heading × String) :=
  match failure.family? with
  | some _ =>
      (.error, failure.message) ::
        ((failure.hint?.filter fun hint => !hint.isEmpty).map (Heading.hint, ·)).toList
  | none => [(.unexpected, failure.summary)]

/-- Messages with their tags. -/
def markups (messages : List (Heading × String)) : List String :=
  messages.map fun message => message.1.markup ++ message.2

/-- Messages without their tags, each with a line feed after it. -/
def telling (messages : List (Heading × String)) : String :=
  String.join (messages.map fun message => message.1.words ++ message.2 ++ "\n")

theorem concede_eq_markups {failure : Failure} (goesOn : failure.isInterruption = false) :
    (concede failure).1 = markups (messages failure) := by
  rcases family : failure.family? with _ | family
  · simp [concede, messages, markups, family, goesOn, Heading.markup]
  · rcases advice : failure.hint? with _ | hint
    · simp [concede, messages, markups, family, advice, Heading.markup]
    · by_cases empty : hint.isEmpty = true
      · simp [concede, messages, markups, family, advice, empty, Heading.markup, Option.filter]
      · simp [concede, messages, markups, family, advice, empty, Heading.markup, Option.filter]

/-- The texts that events leave on the error stream. -/
def errorText (events : List Event) : String := (Screen.ofEvents Console.plain events).error

section Announcing

variable {heading : Heading} {body shown : String} {told : List (Heading × String)}

theorem errorText_print (text : String) (events : List Event) :
    errorText (.print .error text :: events) = text ++ errorText events := rfl

theorem telling_cons (heading : Heading) (body : String) (rest : List (Heading × String)) :
    telling ((heading, body) :: rest) = heading.words ++ body ++ "\n" ++ telling rest := by
  simp [telling, String.join_cons]

theorem announceAll_cons {styled : Bool} {markup : String} {rest : List String}
    (announced : Console.announce styled markup = .ok shown) (code : ℕ) :
    announceAll styled code (markup :: rest) = ((announceAll styled code rest).1,
      .print .error shown :: (announceAll styled code rest).2) := by
  rw [announceAll, announced]

theorem announceAll_refusal {styled : Bool} {markup : String} {rest : List String}
    {failure : Failure} (announced : Console.announce styled markup = .error failure) (code : ℕ) :
    announceAll styled code (markup :: rest) = (.error failure, []) := by
  rw [announceAll, announced]

theorem markups_cons (heading : Heading) (body : String) (rest : List (Heading × String)) :
    markups ((heading, body) :: rest) = (heading.markup ++ body) :: markups rest := rfl

theorem marks_of_heading (announced : Console.announce true (heading.markup ++ body) = .ok shown) :
    marks shown.toList ≤ marks (heading.words ++ body).toList ∧
      (marks (heading.words ++ body).toList ≤ marks shown.toList → Legible body.toList) := by
  obtain ⟨style, words, gap, marked⟩ := heading.exists_marked
  have counted := Console.marks_of_announce marked.names marked.wordy (marked.markup_eq body)
    announced
  rw [marks_append gap, marked.unmarked, legible_append marked.unmarked] at counted
  rw [String.toList_append, marked.words_eq, marks_append, marks_append, marked.unmarked]
  exact ⟨by omega, fun kept => counted.2 (by omega)⟩

/-- A legible message whose words start with characters that have columns is shown as it is. -/
theorem exists_announced (legible : Legible body.toList) (anchored : Anchored body.toList)
    (heading : Heading) : ∃ shown, Console.announce true (heading.markup ++ body) = .ok shown ∧
      solid shown.toList = solid (heading.words ++ body).toList := by
  obtain ⟨style, words, gap, marked⟩ := heading.exists_marked
  have legible' := (legible_append marked.unmarked).2 legible
  obtain ⟨shown, announced⟩ := Console.exists_announce marked.names wordy_nil marked.wordy
    legible'.plainly true (marked.markup_eq body)
  refine ⟨shown, announced, ?_⟩
  have starts : Anchored (words ++ (gap ++ body.toList)) := by
    obtain ⟨start, shape, begins⟩ := marked.spaced
    rw [← List.append_assoc, shape, List.append_assoc, List.singleton_append, Anchored,
      Layout.anchoredAfter_append (by decide), Bool.and_eq_true]
    exact ⟨begins, anchored⟩
  rw [Console.solid_of_announce marked.names marked.wordy (marked.markup_eq body) marked.legible
    legible' starts announced, String.toList_append, marked.words_eq, List.append_assoc]

/-- The messages that can be shown have no marks but their own, and all of them when they are
legible. -/
theorem marks_announceAll (code : ℕ) (told : List (Heading × String)) :
    let announced := announceAll true code (markups told)
    marks (errorText announced.2).toList ≤ marks (telling told).toList ∧
      (announced.1 = .ok code →
        marks (telling told).toList ≤ marks (errorText announced.2).toList →
          ∀ message ∈ told, Legible message.2.toList) := by
  dsimp only
  induction told with
  | nil => exact ⟨Nat.zero_le _, fun _ _ message inside => nomatch inside⟩
  | cons message rest ih =>
      rcases message with ⟨heading, body⟩
      have feed : marks "\n".toList = 0 := rfl
      rw [telling_cons, String.toList_append, String.toList_append, marks_append, marks_append, feed]
      rw [markups_cons]
      rcases announced : Console.announce true (heading.markup ++ body) with failure | shown
      · rw [announceAll_refusal announced]
        exact ⟨Nat.zero_le _, fun shows => nomatch shows⟩
      · obtain ⟨fewer, legible⟩ := marks_of_heading announced
        rw [announceAll_cons announced, errorText_print, String.toList_append, marks_append]
        refine ⟨by omega, fun shows kept => List.forall_mem_cons.2 ⟨legible (by omega), ?_⟩⟩
        exact ih.2 shows (by omega)

/-- Messages are shown one after the other. -/
theorem exists_announceAll (code : ℕ) (told : List (Heading × String))
    (plain : ∀ message ∈ told, Legible message.2.toList ∧ Anchored message.2.toList) :
    let announced := announceAll true code (markups told)
    announced.1 = .ok code ∧
      solid (errorText announced.2).toList = solid (telling told).toList := by
  dsimp only
  induction told with
  | nil => exact ⟨rfl, rfl⟩
  | cons message rest ih =>
      rcases message with ⟨heading, body⟩
      obtain ⟨⟨legible, anchored⟩, others⟩ := List.forall_mem_cons.1 plain
      obtain ⟨shown, announced, same⟩ := exists_announced legible anchored heading
      obtain ⟨shows, later⟩ := ih others
      have feed : Blank "\n".toList := List.forall_mem_singleton.2 (by decide)
      rw [markups_cons, announceAll_cons announced, errorText_print, telling_cons]
      refine ⟨shows, ?_⟩
      simp only [String.toList_append, solid_append, solid_of_blank feed, same, later,
        List.append_nil]

theorem announceAll_unstyled (code : ℕ) (markups : List String) :
    let announced := announceAll false code markups
    announced.1 = .ok code ∧
      errorText announced.2 = String.join (markups.map fun markup => markup ++ "\n") := by
  dsimp only
  induction markups with
  | nil => exact ⟨rfl, rfl⟩
  | cons markup rest ih =>
      have announced : Console.announce false markup = .ok (markup ++ "\n") := rfl
      rw [announceAll_cons announced, errorText_print, ih.2, List.map_cons, String.join_cons]
      exact ⟨ih.1, rfl⟩

end Announcing

section Intact

variable {failure : Failure}

/-- A failure is told on a console as it is, blanks aside. -/
def Intact (styled : Bool) (failure : Failure) : Prop :=
  (conclude styled (.error failure)).1 = .ok (concede failure).2 ∧
    solid (errorText (conclude styled (.error failure)).2).toList =
      solid (telling (messages failure)).toList

theorem conclude_messages (styled : Bool) (answered : failure.isFatal = false)
    (goesOn : failure.isInterruption = false) : conclude styled (.error failure) =
      announceAll styled (concede failure).2 (markups (messages failure)) := by
  rw [conclude, answered, if_neg Bool.false_ne_true, concede_eq_markups goesOn]

/-- The tags of a heading are marks. -/
theorem marks_markup (heading : Heading) : marks heading.words.toList < marks heading.markup.toList := by
  cases heading with
  | error => decide
  | hint => decide
  | unexpected => decide

theorem messages_ne_nil (failure : Failure) : messages failure ≠ [] := by
  rw [messages]
  split
  · exact List.cons_ne_nil _ _
  · exact List.cons_ne_nil _ _

theorem marks_markups (told : List (Heading × String)) :
    marks (telling told).toList + told.length ≤
      marks (String.join ((markups told).map fun markup => markup ++ "\n")).toList := by
  induction told with
  | nil => exact le_rfl
  | cons message rest ih =>
      rcases message with ⟨heading, body⟩
      have tags := marks_markup heading
      rw [telling_cons, markups_cons, List.map_cons, String.join_cons, List.length_cons]
      simp only [String.toList_append, marks_append]
      omega

/-- A console without styles shows more marks than there are without the tags. -/
theorem marks_unstyled (answered : failure.isFatal = false)
    (goesOn : failure.isInterruption = false) : marks (telling (messages failure)).toList <
      marks (errorText (conclude false (.error failure)).2).toList := by
  have more := marks_markups (messages failure)
  have some := List.length_pos_iff.2 (messages_ne_nil failure)
  rw [conclude_messages false answered goesOn, (announceAll_unstyled _ _).2]
  omega

theorem legible_of_intact (answered : failure.isFatal = false)
    (goesOn : failure.isInterruption = false) (intact : Intact true failure) :
    ∀ message ∈ messages failure, Legible message.2.toList := by
  obtain ⟨shows, same⟩ := intact
  rw [conclude_messages true answered goesOn] at shows same
  refine (marks_announceAll _ _).2 shows ?_
  rw [← marks_solid, ← same, marks_solid]

/-- A failure that is neither fatal nor an interruption is told by a message, and by a second one when
it has a hint. Without styles they are shown as they are, with their tags: never as they are meant, and
never as they are shown with styles. With styles a failure is told intact only when the messages are
legible, and when their words start with characters that have columns it is told intact if they are.
All this happens at the end of a run that the failure leaves. -/
theorem intact_of_legible (failure : Failure) (answered : failure.isFatal = false)
    (goesOn : failure.isInterruption = false) :
    (conclude false (.error failure)).1 = .ok (concede failure).2 ∧
    errorText (conclude false (.error failure)).2 =
      String.join ((markups (messages failure)).map fun markup => markup ++ "\n") ∧
    ¬ Intact false failure ∧
    solid (errorText (conclude true (.error failure)).2).toList ≠
      solid (errorText (conclude false (.error failure)).2).toList ∧
    (Intact true failure → ∀ message ∈ messages failure, Legible message.2.toList) ∧
    ((∀ message ∈ messages failure, Legible message.2.toList ∧ Anchored message.2.toList) →
      Intact true failure) ∧
    ∀ (surroundings : Surroundings) (arguments : List String) (options : Options),
      Options.parse arguments = .ok options → options.diagnose = false →
        Leaves surroundings options (.error failure) →
          ∃ events, let concluded := conclude surroundings.styled (.error failure)
            (run surroundings arguments).ending = concluded.1 ∧
              (run surroundings arguments).events = events ++ concluded.2 := by
  have tagged := marks_unstyled answered goesOn
  have unstyled := conclude_messages false answered goesOn
  have styled := conclude_messages true answered goesOn
  refine ⟨?_, ?_, ?_, ?_, legible_of_intact answered goesOn, ?_, ?_⟩
  · rw [unstyled]
    exact (announceAll_unstyled _ _).1
  · rw [unstyled]
    exact (announceAll_unstyled _ _).2
  · rintro ⟨_, same⟩
    rw [← marks_solid, ← same, marks_solid] at tagged
    exact lt_irrefl _ tagged
  · intro same
    have fewer := (marks_announceAll (concede failure).2 (messages failure)).1
    rw [← styled, ← marks_solid, same, marks_solid] at fewer
    exact absurd tagged fewer.not_gt
  · intro plain
    rw [Intact, styled]
    exact exists_announceAll _ _ plain
  · intro surroundings arguments options parsed works leaves
    obtain ⟨events, _, ending, happened⟩ := leaves.exists_run parsed works
    exact ⟨events, ending, happened⟩

/-- Brackets around a number and a colon before a blank are legible, in a message and in a hint. -/
theorem intact_of_numbered :
    let failure : Failure := .stated .dispatch "no [1] such: x" (some "try é")
    Intact true failure ∧ ¬ Intact false failure ∧
      errorText (conclude false (.error failure)).2 =
        "[bold red]Error:[/bold red] no [1] such: x\n[yellow]Hint:[/yellow] try é\n" := by
  intro failure
  obtain ⟨_, shown, tagged, _, _, intact, _⟩ := intact_of_legible failure rfl rfl
  exact ⟨intact (by decide +kernel), tagged, shown.trans (by decide +kernel)⟩

/-- A word in brackets is taken for a tag and does not reach the user. -/
theorem intact_not_bracketed :
    let failure : Failure := .foreign "ValueError" "a [b] c"
    telling (messages failure) =
        "Unexpected error. Please report this issue.\n  ValueError: a [b] c\n" ∧
      ¬ Intact true failure := by
  intro failure
  refine ⟨by decide, fun intact => ?_⟩
  have legible := legible_of_intact rfl rfl intact
  revert legible
  decide

end Intact

end Shell

end CommandShell
