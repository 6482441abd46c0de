import CommandShell.Proofs.Session.Loop
import CommandShell.Proofs.Text.Letters

/-!
The lines that end a session. `isExit_iff_keyword` says that they are two words in small and capital
letters, and `exists_run_iff_finishes` that a session returns when it reads such a line or its source
has none, and that it has run every other line by then.
-/

namespace CommandShell.Session

/-- A line is a keyword when it is `exit` or `quit` in small and capital letters. -/
def Keyword (line : String) : Prop :=
  Literal.Anycase "exit".toList line.toList ∨ Literal.Anycase "quit".toList line.toList

instance (line : String) : Decidable (Keyword line) := inferInstanceAs (Decidable (_ ∨ _))

section Lines

variable {line : String}

theorem lowerCase_eq_iff_anycase {keyword : String}
    (plain : ∀ letter ∈ keyword.toList, Text.IsPlainLetter letter) :
    lowerCase line = keyword ↔ Literal.Anycase keyword.toList line.toList := by
  rw [← Text.lower_eq_iff_anycase plain, lowerCase, ← String.toList_inj, String.toList_ofList]

theorem isPlainLetter_exitKeywords :
    ∀ keyword ∈ exitKeywords, ∀ letter ∈ keyword.toList, Text.IsPlainLetter letter := by
  have all : (exitKeywords.all fun keyword => keyword.toList.all fun letter =>
      decide (0x61 ≤ letter.toNat ∧ letter.toNat ≤ 0x7A ∧ letter ≠ 'k')) = true := by decide
  intro keyword inside letter among
  have this := List.all_eq_true.1 (List.all_eq_true.1 all keyword inside) letter among
  obtain ⟨low, high, ne⟩ := of_decide_eq_true this
  exact ⟨low, high, ne⟩

/-- The case of letters apart, nothing but a keyword ends a session. -/
theorem isExit_iff_keyword : isExit line = true ↔ Keyword line := by
  have exit := isPlainLetter_exitKeywords "exit" (by decide)
  have quit := isPlainLetter_exitKeywords "quit" (by decide)
  rw [Keyword, ← lowerCase_eq_iff_anycase exit, ← lowerCase_eq_iff_anycase quit, isExit,
    List.contains_iff_mem, exitKeywords, List.mem_cons, List.mem_singleton]

theorem isExit_eq_false_iff : isExit line = false ↔ ¬ Keyword line := by
  rw [← isExit_iff_keyword, Bool.not_eq_true]

theorem ends_iff_keyword {line? : Option String} : Ends line? ↔ ∀ line ∈ line?, Keyword line :=
  forall_congr' fun _ => forall_congr' fun _ => isExit_iff_keyword

/-- A keyword has no room for anything but its letters. -/
theorem Keyword.letters (keyword : Keyword line) :
    line.length = 4 ∧ ∀ char ∈ line.toList, char.isAlpha = true := by
  have spelled : ∃ word ∈ exitKeywords, Literal.Anycase word.toList line.toList := by
    rcases keyword with exit | quit
    · exact ⟨"exit", by decide, exit⟩
    · exact ⟨"quit", by decide, quit⟩
  have all : (exitKeywords.all fun word => word.length == 4 && word.toList.all fun letter =>
      letter.isAlpha && letter.toUpper.isAlpha) = true := by decide
  obtain ⟨word, inside, written⟩ := spelled
  have this := List.all_eq_true.1 all word inside
  simp only [Bool.and_eq_true, beq_iff_eq, List.all_eq_true] at this
  obtain ⟨four, letters⟩ := this
  refine ⟨?_, written.forall_mem letters⟩
  rw [← String.length_toList, written.length_eq, String.length_toList, four]

example : Keyword "eXiT" ∧ ¬ Keyword "exit " ∧ ¬ Keyword "ex\u0130t" ∧ ¬ Keyword "\uFF51uit" := by
  decide

end Lines

section Run

variable {Lines Tasks : Type} {source : LineSource Lines} {executor : Executor Tasks}
  {session later : Session Lines Tasks} {lines : List String} {last? : Option String}

/-- How a session goes that returns: it reads lines that are no keywords and runs each of them to its
end, and then it reads a keyword or its source has no line. -/
inductive Finishes (source : LineSource Lines) (executor : Executor Tasks) :
    Session Lines Tasks → List String → Option String → Session Lines Tasks → Prop
  | ended {session : Session Lines Tasks} {last? : Option String} {rest : Lines}
      {events : List Event} (keyword : ∀ line ∈ last?, Keyword line)
      (reading : source.read (promptText session.counter) session.lines =
        ⟨.ok last?, rest, events⟩) :
      Finishes source executor session [] last? { session with lines := rest }
  | continued {session middle later : Session Lines Tasks} {line : String} {lines : List String}
      {last? : Option String} {rest : Lines} {launches : List Launch} {events more : List Event}
      (stays : ¬ Keyword line)
      (reading : source.read (promptText session.counter) session.lines =
        ⟨.ok (some line), rest, events⟩)
      (running : runLine executor line { session with lines := rest } =
        ⟨.ok launches, middle, more⟩)
      (finishes : Finishes source executor middle lines last? later) :
      Finishes source executor session (line :: lines) last? later

theorem Finishes.exists_loop (finishes : Finishes source executor session lines last? later) :
    ∃ events, loop source executor session = ⟨.ok (), later, events⟩ := by
  induction finishes with
  | ended keyword reading => exact ⟨_, loop_ended (ends_iff_keyword.2 keyword) reading⟩
  | @continued session middle later line lines last? rest launches events more stays reading running
      _ ih =>
      obtain ⟨others, goes⟩ := ih
      refine ⟨events ++ more ++ others, ?_⟩
      rw [loop_continued (isExit_eq_false_iff.2 stays) reading running, goes]
      rfl

/-- A loop that returns finishes. -/
theorem exists_finishes_of_loop {events : List Event}
    (goes : loop source executor session = ⟨.ok (), later, events⟩) :
    ∃ lines last?, Finishes source executor session lines last? later := by
  induction session using loop_induction source executor generalizing events with
  | unread session failure rest told reading =>
      rw [loop_unread reading] at goes
      cases goes
  | ended session line? rest told ends reading =>
      rw [loop_ended ends reading] at goes
      cases goes
      exact ⟨[], line?, .ended (ends_iff_keyword.1 ends) reading⟩
  | failed session line rest told failure after more stays reading running =>
      rw [loop_failed stays reading running] at goes
      cases goes
  | continued session line rest told launches after more stays reading running ih =>
      rw [loop_continued stays reading running, Outcome.after_eq_iff] at goes
      obtain ⟨others, goesOn, _⟩ := goes
      obtain ⟨lines, last?, finishes⟩ := ih goesOn
      exact ⟨line :: lines, last?,
        .continued (isExit_eq_false_iff.1 stays) reading running finishes⟩

/-- A session returns exactly when it finishes. -/
theorem exists_run_iff_finishes :
    (∃ events, run source executor session = ⟨.ok (), later, events⟩) ↔
      ∃ lines last?, Finishes source executor session lines last? later := by
  constructor
  · rintro ⟨events, ran⟩
    obtain ⟨told, goes, _⟩ := Outcome.after_eq_iff.1 ran
    exact exists_finishes_of_loop goes
  · rintro ⟨lines, last?, finishes⟩
    obtain ⟨told, goes⟩ := finishes.exists_loop
    exact ⟨_, Outcome.after_eq_iff.2 ⟨told, goes, rfl⟩⟩

end Run

end CommandShell.Session
