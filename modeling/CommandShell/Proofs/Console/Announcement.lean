import CommandShell.Console
import Mathlib.Data.List.TakeWhile
import Mathlib.Tactic.MkIffOfInductiveProp

/-!
Texts with markup that a console can always show. `Console.exists_announce` says so of words in one
style with texts around them that have no brackets.
-/

namespace CommandShell

namespace Markup

/-- Text without opening brackets is plain. -/
theorem tokensFrom_of_bracketless {text : List Char} (bracketless : '[' ∉ text) (place : Nat)
    (read : List Char) (slashes : Nat) :
    tokensFrom place read slashes text = plain (read ++ List.replicate slashes '\\' ++ text) := by
  induction text generalizing place read slashes with
  | nil => rw [tokensFrom, List.append_nil]
  | cons char rest ih =>
      rw [List.mem_cons, not_or] at bracketless
      by_cases slash : char = '\\'
      · subst slash
        rw [tokensFrom, ih bracketless.2, List.replicate_succ', List.append_assoc, List.append_assoc,
          List.append_assoc]
        rfl
      · rw [tokensFrom, ih bracketless.2]
        · simp
        · exact slash
        · exact Ne.symm bracketless.1

/-- No part of a text is a tag, wherever it stands. -/
def Plainly (text : List Char) : Prop := ∀ place, tokensFrom place [] 0 text = plain text

theorem plainly_of_bracketless {text : List Char} (bracketless : '[' ∉ text) : Plainly text :=
  fun place => tokensFrom_of_bracketless bracketless place [] 0

/-- Words without brackets and backslashes are read one character after the other. -/
theorem tokensFrom_append {words : List Char} (bracketless : '[' ∉ words) (slashless : '\\' ∉ words)
    (place : Nat) (read text : List Char) :
    tokensFrom place read 0 (words ++ text) =
      tokensFrom (place + words.length) (read ++ words) 0 text := by
  induction words generalizing place read with
  | nil => simp
  | cons char rest ih =>
      rw [List.mem_cons, not_or] at bracketless slashless
      rw [List.cons_append, tokensFrom, ih bracketless.2 slashless.2]
      · simp [Nat.add_comm, Nat.add_left_comm]
      · exact Ne.symm slashless.1
      · exact Ne.symm bracketless.1

theorem cutTag?_append {tag : List Char} (closeless : ']' ∉ tag) (openless : '[' ∉ tag)
    (after : List Char) : cutTag? (tag ++ ']' :: after) = some (tag, after) := by
  induction tag with
  | nil => rfl
  | cons char rest ih =>
      rw [List.mem_cons, not_or] at closeless openless
      rw [List.cons_append, cutTag?, if_neg (Ne.symm closeless.1), if_neg (Ne.symm openless.1),
        ih closeless.2 openless.2]
      rfl

/-- A tag that is written out ends the plain text before it. -/
theorem tokensFrom_tag {tag : List Char} (closeless : ']' ∉ tag) (openless : '[' ∉ tag)
    (starts : startsTag tag = true) (place : Nat) (read after : List Char) :
    tokensFrom place read 0 ('[' :: (tag ++ ']' :: after)) =
      plain read ++ .tag place tag :: tokensFrom (place + tag.length + 2) [] 0 after := by
  have starts' : startsTag (tag ++ ']' :: after) = true := by
    cases tag with
    | nil => cases starts
    | cons char rest => exact starts
  have found : tag? (tag ++ ']' :: after) = some (tag, after) := by
    rw [tag?, if_pos starts', cutTag?_append closeless openless]
  rw [tokensFrom]
  split
  · simp_all
  · rename_i found'
    rw [found] at found'
    cases found'
    simp [plain]

theorem styledFrom_plain (opened : List Tag) (place : Nat) (text : List Char)
    (rest : List Token) : styledFrom opened place (plain text ++ rest) =
      (styledFrom opened (place + (visible text).length) rest).map fun next =>
        { next with text := visible text ++ next.text } := by
  rcases text with _ | ⟨char, text⟩
  · have nothing : visible [] = [] := rfl
    rw [nothing]
    rcases following : styledFrom opened (place + 0) rest with failure | next
    · simpa [plain, Except.map] using following
    · simpa [plain, Except.map] using following
  · change styledFrom opened place (.plain (char :: text) :: rest) = _
    rw [styledFrom]
    rcases styledFrom opened (place + (visible (char :: text)).length) rest with failure | next
    · rfl
    · rfl

/-- The text of a tag that names a style as the style is shown. -/
@[mk_iff]
structure Names (style : List Char) : Prop where
  starts : startsTag style = true
  closeless : ']' ∉ style
  openless : '[' ∉ style
  equalless : '=' ∉ style
  opens : style.head? ≠ some '/'
  passive : style.head? ≠ some '@'
  trimmed : Text.trim Text.isBlank style = style
  normal : Style.normalForm (String.ofList style) = .ok (String.ofList style)

instance : DecidablePred Names := fun style => decidable_of_iff _ (names_iff style).symm

variable {style : List Char}

theorem Names.tagName (names : Names style) : tagName style = style := by
  rw [Markup.tagName, List.takeWhile_eq_self_iff]
  intro char inside
  have different : char ≠ '=' := fun same => names.equalless (same ▸ inside)
  simpa using different

theorem Names.parameters? (names : Names style) : parameters? style = none := by
  have dropped : style.dropWhile (· ≠ '=') = [] := by
    rw [List.dropWhile_eq_nil_iff]
    intro char inside
    have different : char ≠ '=' := fun same => names.equalless (same ▸ inside)
    simpa using different
  rw [Markup.parameters?, dropped]

theorem Names.openTag (names : Names style) (place : Nat) (opened : List Tag) :
    openTag place style opened = .ok (⟨String.ofList style, none, place⟩ :: opened) := by
  rw [Markup.openTag, names.tagName, names.normal, names.parameters?]
  rfl

theorem Names.close (names : Names style) (start place : Nat) :
    Tag.close ⟨String.ofList style, none, start⟩ place =
      .ok [⟨start, place, String.ofList style⟩] := by
  rw [Tag.close, String.toList_ofList]
  rcases style with _ | ⟨char, rest⟩
  · rfl
  · have other : char ≠ '@' := fun same => names.passive (by rw [same]; rfl)
    split
    · simp_all
    · simp_all
    · rfl

/-- A style is closed by its name. -/
theorem Names.closeTag (names : Names style) (source start place : Nat) :
    closeTag source place ('/' :: style) [⟨String.ofList style, none, start⟩] =
      .ok ([⟨start, place, String.ofList style⟩], []) := by
  have name : Markup.tagName ('/' :: style) = '/' :: style := by
    have tail := names.tagName
    rw [Markup.tagName] at tail ⊢
    rw [List.takeWhile_cons, if_pos (by decide), tail]
  have nonempty : style.isEmpty = false := by
    cases style with
    | nil => cases names.starts
    | cons char rest => rfl
  rw [Markup.closeTag, name, List.drop_succ_cons, List.drop_zero, names.trimmed, nonempty,
    names.normal]
  simp only [Bool.false_eq_true, ↓reduceIte, List.find?_cons, BEq.rfl, List.eraseP_cons,
    names.close, cond_true, bind, Except.bind]
  rfl

/-- Words in a style, between a text before them and one after them. -/
def marked (before style words after : List Char) : List Char :=
  before ++ '[' :: (style ++ ']' :: (words ++ '[' :: ('/' :: style ++ ']' :: after)))

theorem marked_append (before style words after rest : List Char) :
    marked before style words after ++ rest = marked before style words (after ++ rest) := by
  simp [marked]

/-- No brackets open in a text, and no backslash takes one for plain text. -/
@[mk_iff]
structure Wordy (text : List Char) : Prop where
  bracketless : '[' ∉ text
  slashless : '\\' ∉ text

instance : DecidablePred Wordy := fun text => decidable_of_iff _ (wordy_iff text).symm

variable {before words after : List Char}

/-- The tokens of a marked text up to its last tag, after which the rest stands at a place of its
own. -/
theorem Names.tokens (names : Names style) (fore : Wordy before) (inner : Wordy words)
    (after : List Char) : ∃ close, tokens (marked before style words after) =
      plain before ++ ([.tag before.length style] ++
        (plain words ++ (.tag close ('/' :: style) ::
          tokensFrom (close + style.length + 3) [] 0 after))) := by
  have closeless : ']' ∉ '/' :: style := by simp [names.closeless]
  have openless : '[' ∉ '/' :: style := by simp [names.openless]
  refine ⟨before.length + style.length + 2 + words.length, ?_⟩
  rw [Markup.tokens, marked, tokensFrom_append fore.bracketless fore.slashless,
    tokensFrom_tag names.closeless names.openless names.starts,
    tokensFrom_append inner.bracketless inner.slashless,
    tokensFrom_tag closeless openless rfl]
  simp [Nat.add_assoc]

/-- A marked text is shown as its words in their style, between what is shown of the rest. -/
theorem Names.styledFrom (names : Names style) (start close : Nat) (rest : List Token) :
    ∃ place, styledFrom [] 0 (plain before ++ ([.tag start style] ++
        (plain words ++ (.tag close ('/' :: style) :: rest)))) =
      (Markup.styledFrom [] place rest).map fun next =>
        { text := visible before ++ (visible words ++ next.text)
          spans := ⟨(visible before).length, place, String.ofList style⟩ :: next.spans } := by
  have different : style.head? ≠ some '/' := names.opens
  refine ⟨(visible before).length + (visible words).length, ?_⟩
  rw [styledFrom_plain, List.singleton_append, Markup.styledFrom, if_neg different, names.openTag]
  simp only [bind, Except.bind, styledFrom_plain, Markup.styledFrom, names.closeTag,
    List.head?_cons, ↓reduceIte, Nat.zero_add]
  rcases Markup.styledFrom [] ((visible before).length + (visible words).length) rest with
    failure | next
  · rfl
  · rfl

/-- The words of a marked text are shown in their style. -/
theorem Names.styled (names : Names style) (fore : Wordy before) (inner : Wordy words)
    (plainly : Plainly after) : ∃ text start finish,
      styled (marked before style words after) =
        .ok ⟨text, [⟨start, finish, String.ofList style⟩]⟩ := by
  obtain ⟨close, tokens⟩ := names.tokens fore inner after
  obtain ⟨place, shows⟩ := @Names.styledFrom style before words names before.length close
    (plain after ++ [])
  rw [plainly, ← List.append_nil (plain after)] at tokens
  rw [Markup.styled, tokens, shows, styledFrom_plain, Markup.styledFrom]
  simp [bind, Except.bind, Except.map, pure, Except.pure]

/-- A marked text in which nothing is closed behind its words is not shown. -/
theorem Names.styled_unopened (names : Names style) (fore : Wordy before) (inner : Wordy words)
    (behind : Wordy after) (rest : List Char) : ∃ place,
      Markup.styled (marked before style words (after ++ '[' :: (['/'] ++ ']' :: rest))) =
        .error (.nothingToClose place) := by
  obtain ⟨close, tokens⟩ := names.tokens fore inner (after ++ '[' :: (['/'] ++ ']' :: rest))
  rw [tokensFrom_append behind.bracketless behind.slashless,
    tokensFrom_tag (by decide) (by decide) rfl] at tokens
  obtain ⟨place, shows⟩ := @Names.styledFrom style before words names before.length close _
  rw [Markup.styled, tokens, shows, styledFrom_plain]
  exact ⟨_, rfl⟩

/-- The styles that the shell itself marks texts with. -/
theorem names_of_mem (style : String) (used : style ∈ ["bold red", "red", "yellow", "green"]) :
    Names style.toList := by
  have named : ∀ style ∈ ["bold red", "red", "yellow", "green"], Names style.toList := by
    decide +kernel
  exact named style used

end Markup

namespace Console

open Markup

/-- A console can show every text that is marked in one style. -/
theorem exists_announce {before style words after : List Char} (names : Names style)
    (fore : Wordy before) (inner : Wordy words) (plainly : Plainly after) (styled : Bool)
    {markup : String} (whole : markup.toList = marked before style words after) :
    ∃ text, announce styled markup = .ok text := by
  rcases styled with _ | _
  · exact ⟨_, rfl⟩
  · obtain ⟨text, start, finish, shows⟩ := names.styled fore inner plainly
    have sound : Style.failure? (String.ofList style) = none := by
      rw [Style.failure?, names.normal]
    have fine : StyledText.failure? ⟨text, [⟨start, finish, String.ofList style⟩]⟩ .fold width =
        none := by
      simp [StyledText.failure?, sound]
    rw [announce, if_pos rfl, whole, shows]
    simp only [bind, Except.bind, StyledText.paragraph, fine]
    exact ⟨_, rfl⟩

/-- A console with styles shows no marked text in which nothing is closed behind its words. -/
theorem exists_refusal {before style words after : List Char} (names : Names style)
    (fore : Wordy before) (inner : Wordy words) (behind : Wordy after) (rest : List Char)
    {markup : String}
    (whole : markup.toList = marked before style words (after ++ '[' :: (['/'] ++ ']' :: rest))) :
    ∃ place, announce true markup = .error (.nothingToClose place) := by
  obtain ⟨place, refused⟩ := names.styled_unopened fore inner behind rest
  refine ⟨place, ?_⟩
  rw [announce, if_pos rfl, whole, refused]
  rfl

end Console

end CommandShell
