import CommandShell.Proofs.Console.Announcement
import CommandShell.Proofs.Console.Wrapping
import Mathlib.Data.List.Chain

/-!
Texts that are read as markup and are none. A legible text has no tags, no brackets behind
backslashes, no known names between colons and no characters that are never shown. Behind a marked
word it is shown as it is (`Console.solid_of_announce`), and of any other text some mark is lost
(`Console.marks_of_announce`).
-/

namespace CommandShell

namespace Markup

open Text

/-- No bracket of a text opens a tag. -/
def Untagged (text : List Char) : Prop := ∀ after, '[' :: after <:+ text → tag? after = none

/-- No bracket of a text is behind a backslash. -/
def Unescaped (text : List Char) : Prop :=
  text.IsChain fun first second => first = '\\' → second ≠ '['

/-- A text that markup shows as it is. -/
@[mk_iff]
structure Legible (text : List Char) : Prop where
  untagged : Untagged text
  unescaped : Unescaped text
  unnamed : ∀ name ∈ Emoji.codes text, ¬ Emoji.Known name
  audible : ∀ char ∈ text, isHidden char = true → isBlank char = true

/-- A character that markup may take for more than itself, or not show though it is not blank. -/
def isMark (char : Char) : Bool :=
  char == '[' || char == '\\' || char == ':' || (isHidden char && !isBlank char)

/-- The number of marks in a text. -/
def marks (text : List Char) : ℕ := text.countP isMark

section Marks

variable {char : Char} {text rest : List Char}

theorem marks_append (text rest : List Char) : marks (text ++ rest) = marks text + marks rest :=
  List.countP_append

theorem marks_cons (char : Char) (rest : List Char) :
    marks (char :: rest) = marks [char] + marks rest :=
  marks_append [char] rest

/-- Marks are not blank. -/
theorem marks_solid (text : List Char) : marks (solid text) = marks text := by
  rw [marks, solid, List.countP_filter, marks]
  apply List.countP_congr
  intro char _
  by_cases blank : isBlank char = true
  · have other : char ≠ '[' ∧ char ≠ '\\' ∧ char ≠ ':' := by
      refine ⟨?_, ?_, ?_⟩ <;> (rintro rfl; revert blank; decide)
    simp [isMark, blank, other]
  · simp [blank]

theorem marks_le_of_sublist (part : text.Sublist rest) : marks text ≤ marks rest :=
  part.countP_le

theorem marks_replicate (count : ℕ) : marks (List.replicate count '\\') = count := by
  rw [marks, List.countP_replicate]
  rfl

end Marks

section Emoji

open Emoji

theorem not_isMark_of_ne {char : Char} (bracket : char ≠ '[') (slash : char ≠ '\\')
    (colon : char ≠ ':') (drawn : 0x20 ≤ char.toNat) : isMark char = false := by
  have shown : isHidden char = false := by
    rcases hidden : isHidden char with _ | _
    · rfl
    · have control := Console.lt_of_isHidden hidden
      omega
  simp [isMark, bracket, slash, colon, shown]

theorem isMark_of_lookup {name emoji : String} (known : table.lookup name = some emoji) :
    ∀ char ∈ emoji.toList, isMark char = false := by
  intro char member
  obtain ⟨drawn, colon, bracket, slash⟩ := (drawn_of_lookup known).2 char member
  exact not_isMark_of_ne bracket slash colon drawn

theorem isMark_selection (name : List Char) :
    ∀ char ∈ (selection name).2, isMark char = false := by
  have selectors : ∀ char ∈ [emojiSelector, textSelector], isMark char = false := by
    rw [List.forall_mem_cons, List.forall_mem_singleton]
    decide
  intro char inside
  apply selectors
  unfold selection at inside
  split at inside
  · exact List.mem_cons.2 (.inl (List.mem_singleton.1 inside))
  · split at inside
    · exact List.mem_cons_of_mem _ inside
    · cases inside

/-- What stands for a known name has no marks. -/
theorem marks_shown {name : List Char} (known : Known name) : marks (shown name) = 0 := by
  obtain ⟨emoji, found⟩ := Option.isSome_iff_exists.1 known
  have shows : shown name = emoji.toList ++ (selection name).2 := by
    simp only [shown, found]
  rw [shows, marks, List.countP_eq_zero]
  intro char inside
  rw [Bool.not_eq_true]
  rcases List.mem_append.1 inside with before | after
  · exact isMark_of_lookup found char before
  · exact isMark_selection name char after

/-- Known names lose their colons, and no text has more marks for its emoji. -/
theorem marks_replaceFrom (name? : Option (List Char)) (text : List Char) :
    marks (replaceFrom name? text) ≤ marks (opened name? ++ text) ∧
      (marks (opened name? ++ text) ≤ marks (replaceFrom name? text) →
        ∀ name ∈ codesFrom name? text, ¬ Known name) := by
  induction text generalizing name? with
  | nil =>
      have same : replaceFrom name? [] = opened name? ++ [] := by
        cases name? with
        | none => rfl
        | some name => simp [replaceFrom, opened]
      rw [same]
      exact ⟨le_rfl, fun _ name inside => absurd inside List.not_mem_nil⟩
  | cons char rest ih =>
      have later := ih none
      rw [opened, List.nil_append] at later
      rcases name? with _ | name
      · rw [replaceFrom, codesFrom, opened, List.nil_append]
        by_cases colon : char = ':'
        · rw [if_pos colon, if_pos colon, colon]
          exact ih (some [])
        · rw [if_neg colon, if_neg colon, marks_cons, marks_cons char rest]
          exact ⟨by omega, fun same => later.2 (by omega)⟩
      · rw [replaceFrom, codesFrom, opened, marks_append (':' :: name), marks_cons char rest]
        by_cases colon : char = ':'
        · rw [if_pos colon, if_pos colon, colon, marks_append, marks_cons ':' name]
          have counted : marks [':'] = 1 := rfl
          by_cases known : Known name
          · have nothing := marks_shown known
            exact ⟨by omega, fun same => absurd same (by omega)⟩
          · rw [shown_of_not_known known, marks_append, marks_cons ':' name]
            exact ⟨by omega, fun same => List.forall_mem_cons.2 ⟨known, later.2 (by omega)⟩⟩
        · by_cases blank : isBlank char = true
          · rw [if_neg colon, if_neg colon, if_pos blank, if_pos blank, marks_append (':' :: name),
              marks_cons char (replaceFrom none rest)]
            exact ⟨by omega, fun same => later.2 (by omega)⟩
          · have further := ih (some (name ++ [char]))
            have counted : marks (opened (some (name ++ [char])) ++ rest) =
                marks (':' :: name) + (marks [char] + marks rest) := by
              rw [opened, ← List.cons_append, marks_append, marks_append, Nat.add_assoc]
            rw [counted] at further
            rw [if_neg colon, if_neg colon, if_neg blank, if_neg blank]
            exact further

/-- Marks are lost where a text is not shown as it is. -/
theorem marks_visible (text : List Char) : marks (visible text) ≤ marks text ∧
    (marks text ≤ marks (visible text) → (∀ name ∈ codes text, ¬ Known name) ∧
      ∀ char ∈ text, isHidden char = true → isBlank char = true) := by
  obtain ⟨fewer, kept⟩ := marks_replaceFrom none text
  rw [opened, List.nil_append] at fewer kept
  have filtered : marks (visible text) ≤ marks (replace text) :=
    marks_le_of_sublist List.filter_sublist
  refine ⟨filtered.trans fewer, fun same => ?_⟩
  have unnamed := kept (same.trans filtered)
  have self : replace text = text := replace_eq_self_iff.2 unnamed
  refine ⟨unnamed, fun char inside hidden => ?_⟩
  by_contra loud
  -- A mark that is hidden is missing from what is shown.
  have parts := List.countP_eq_countP_filter_add text isMark fun char => !isHidden char
  have shown : marks (visible text) = (text.filter fun char => !isHidden char).countP isMark := by
    rw [marks, visible, self]
  rw [Bool.not_eq_true] at loud
  have mark : isMark char = true := by simp [isMark, hidden, loud]
  have gone : 0 < (text.filter fun char => !!isHidden char).countP isMark :=
    List.countP_pos_iff.2 ⟨char, List.mem_filter.2 ⟨inside, by simp [hidden]⟩, mark⟩
  rw [shown, marks] at same
  omega

end Emoji

section Tokens

variable {text rest tag after read : List Char} {place slashes : ℕ}

/-- The plain text between tags as it is shown. -/
def plainText (tokens : List Token) : List Char := tokens.flatMap fun
  | .plain text => visible text
  | .tag _ _ => []

theorem plainText_append (first second : List Token) :
    plainText (first ++ second) = plainText first ++ plainText second :=
  List.flatMap_append

theorem plainText_cons_plain (text : List Char) (rest : List Token) :
    plainText (.plain text :: rest) = visible text ++ plainText rest := rfl

theorem plainText_cons_tag (place : ℕ) (tag : List Char) (rest : List Token) :
    plainText (.tag place tag :: rest) = plainText rest := rfl

theorem plainText_plain (text : List Char) : plainText (plain text) = visible text := by
  cases text with
  | nil => rfl
  | cons char rest => exact List.append_nil _

/-- What markup shows is its plain text, whatever the tags say. -/
theorem text_of_styledFrom {tokens : List Token} {opened : List Tag} {shown : StyledText}
    (styled : styledFrom opened place tokens = .ok shown) : shown.text = plainText tokens := by
  induction tokens generalizing opened place shown with
  | nil =>
      rw [styledFrom] at styled
      cases styled
      rfl
  | cons token rest ih =>
      rcases token with text | ⟨source, tag⟩
      · rcases found : styledFrom opened (place + (visible text).length) rest with failure | next
        · rw [styledFrom, found] at styled
          cases styled
        · rw [styledFrom, found] at styled
          cases styled
          rw [plainText_cons_plain, ← ih found]
      · rw [plainText_cons_tag]
        rw [styledFrom] at styled
        split at styled
        · rcases closed : closeTag source place tag opened with failure | ⟨spans, outer⟩
          · rw [closed] at styled
            cases styled
          · rcases found : styledFrom outer place rest with failure | next
            · simp only [closed, bind, Except.bind, found] at styled
              cases styled
            · simp only [closed, bind, Except.bind, found] at styled
              cases styled
              change next.text = plainText rest
              exact ih found
        · rcases begun : openTag place tag opened with failure | inner
          · rw [begun] at styled
            cases styled
          · rw [begun] at styled
            exact ih styled

theorem text_of_styled {markup : List Char} {shown : StyledText}
    (styled : Markup.styled markup = .ok shown) : shown.text = plainText (tokens markup) := by
  rcases found : styledFrom [] 0 (tokens markup) with failure | text
  · simp [Markup.styled, found, bind, Except.bind] at styled
  · simp only [Markup.styled, found, bind, Except.bind, pure, Except.pure] at styled
    cases styled
    change text.text = plainText (tokens markup)
    exact text_of_styledFrom found

theorem eq_of_cutTag? (cut : cutTag? text = some (tag, after)) : text = tag ++ ']' :: after := by
  induction text generalizing tag with
  | nil => cases cut
  | cons char rest ih =>
      rw [cutTag?] at cut
      split at cut
      · rename_i closes
        cases cut
        rw [closes]
        rfl
      · split at cut
        · cases cut
        · obtain ⟨⟨inner, behind⟩, found, same⟩ := Option.map_eq_some_iff.1 cut
          cases same
          rw [ih found]
          rfl

theorem eq_of_tag? (found : tag? text = some (tag, after)) : text = tag ++ ']' :: after := by
  rw [tag?] at found
  split at found
  · exact eq_of_cutTag? found
  · cases found

theorem untagged_cons {char : Char} :
    Untagged (char :: rest) ↔ (char = '[' → tag? rest = none) ∧ Untagged rest := by
  constructor
  · intro untagged
    refine ⟨?_, fun after behind => untagged after (behind.trans (List.suffix_cons _ _))⟩
    rintro rfl
    exact untagged rest List.suffix_rfl
  · rintro ⟨first, others⟩ after behind
    rcases List.suffix_cons_iff.1 behind with same | later
    · cases same
      exact first rfl
    · exact others after later

instance decidableUntagged : DecidablePred Untagged
  | [] => isTrue fun _ behind => nomatch List.suffix_nil.1 behind
  | char :: rest =>
      have := decidableUntagged rest
      decidable_of_iff ((char = '[' → tag? rest = none) ∧ Untagged rest) untagged_cons.symm

instance : DecidablePred Unescaped := fun text =>
  inferInstanceAs (Decidable (text.IsChain fun first second => first = '\\' → second ≠ '['))

instance : DecidablePred Legible := fun text =>
  have : Decidable (∀ char ∈ text, isHidden char = true → isBlank char = true) :=
    List.decidableBAll (fun char => isHidden char = true → isBlank char = true) text
  decidable_of_iff _ (legible_iff text).symm

theorem unescaped_replicate (slashes : ℕ) : Unescaped (List.replicate slashes '\\') :=
  List.isChain_replicate_of_rel slashes (by decide)

theorem Unescaped.behind {char : Char} (unescaped : Unescaped rest) (bracket : char ≠ '[')
    (slash : char ≠ '\\') (slashes : ℕ) :
    Unescaped (List.replicate slashes '\\' ++ char :: rest) := by
  refine List.isChain_append.2 ⟨unescaped_replicate slashes, List.isChain_cons.2 ⟨?_, unescaped⟩, ?_⟩
  · exact fun _ _ same => absurd same slash
  · rintro _ _ _ ⟨⟩ _
    exact bracket

theorem tokensFrom_untagged (untagged : tag? rest = none) (place : ℕ) (read : List Char)
    (slashes : ℕ) : tokensFrom place read slashes ('[' :: rest) =
      tokensFrom (place + 1) (read ++ openBracket slashes) 0 rest := by
  rw [tokensFrom]
  split
  · rfl
  · simp_all

theorem tokensFrom_cons {char : Char} (bracket : char ≠ '[') (slash : char ≠ '\\') (place : ℕ)
    (read : List Char) (slashes : ℕ) : tokensFrom place read slashes (char :: rest) =
      tokensFrom (place + 1) (read ++ List.replicate slashes '\\' ++ [char]) 0 rest := by
  rw [tokensFrom]
  · exact slash
  · exact bracket

/-- A tag, and one that backslashes make plain. -/
theorem tokensFrom_tagged (found : tag? rest = some (tag, after)) (place : ℕ) (read : List Char)
    (slashes : ℕ) : tokensFrom place read slashes ('[' :: rest) =
      plain read ++ plain (List.replicate (slashes / 2) '\\') ++
        (if slashes % 2 = 1 then .plain ('[' :: tag ++ [']']) else .tag place tag) ::
          tokensFrom (place + tag.length + 2) [] 0 after := by
  rw [tokensFrom]
  split
  · simp_all
  · rename_i found'
    rw [found] at found'
    cases found'
    split
    · rfl
    · rfl

theorem marks_openBracket (slashes : ℕ) : marks (openBracket slashes) = slashes - 1 + 1 := by
  rw [openBracket, marks_append, marks_replicate]
  rfl

/-- The bracket of a tag is lost, or a backslash before it. -/
theorem marks_tokens_tagged (found : tag? rest = some (tag, after)) (place : ℕ) (read : List Char)
    (slashes : ℕ) (fewer : marks (plainText (tokensFrom (place + tag.length + 2) [] 0 after)) ≤
      marks [] + marks (List.replicate 0 '\\' ++ after)) :
    marks (plainText (tokensFrom place read slashes ('[' :: rest))) <
      marks read + marks (List.replicate slashes '\\' ++ '[' :: rest) := by
  have bracket : marks ['['] = 1 := rfl
  have close : marks [']'] = 0 := rfl
  have before := (marks_visible read).1
  have halved := (marks_visible (List.replicate (slashes / 2) '\\')).1
  have inside := (marks_visible ('[' :: tag ++ [']'])).1
  have counted : marks ('[' :: rest) = 1 + (marks tag + marks after) := by
    rw [eq_of_tag? found, marks_cons, marks_append, marks_cons ']', bracket, close, Nat.zero_add]
  rw [List.replicate_zero, List.nil_append] at fewer
  rw [marks_replicate] at halved
  rw [marks_append, marks_cons '[', bracket, close] at inside
  rw [tokensFrom_tagged found, plainText_append, plainText_append, plainText_plain, plainText_plain,
    marks_append, marks_append, marks_append, marks_replicate, counted]
  have nothing : marks [] = 0 := rfl
  by_cases odd : slashes % 2 = 1
  · rw [if_pos odd, plainText_cons_plain, marks_append]
    omega
  · rw [if_neg odd, plainText_cons_tag]
    omega

/-- Marks are lost where a text has tags or escapes. -/
theorem marks_tokensFrom (place : ℕ) (read : List Char) (slashes : ℕ) (text : List Char) :
    let whole := List.replicate slashes '\\' ++ text
    let shown := plainText (tokensFrom place read slashes text)
    marks shown ≤ marks read + marks whole ∧
      (marks read + marks whole ≤ marks shown → Untagged text ∧ Unescaped whole) := by
  dsimp only
  induction place, read, slashes, text using tokensFrom.induct with
  | case1 place read slashes =>
      have bound := (marks_visible (read ++ List.replicate slashes '\\')).1
      rw [marks_append] at bound
      rw [tokensFrom, plainText_plain, List.append_nil]
      refine ⟨bound, fun _ => ⟨fun after behind => ?_, unescaped_replicate slashes⟩⟩
      cases List.suffix_nil.1 behind
  | case2 place read slashes rest ih =>
      have same : List.replicate (slashes + 1) '\\' ++ rest =
          List.replicate slashes '\\' ++ '\\' :: rest := by
        rw [List.replicate_succ', List.append_assoc]
        rfl
      rw [same] at ih
      rw [tokensFrom]
      have other : '\\' ≠ '[' := by decide
      exact ⟨ih.1, fun kept =>
        ⟨untagged_cons.2 ⟨fun same => absurd same other, (ih.2 kept).1⟩, (ih.2 kept).2⟩⟩
  | case3 place read slashes rest untagged ih =>
      have bracket : marks ['['] = 1 := rfl
      rw [marks_append, marks_openBracket, List.replicate_zero, List.nil_append] at ih
      rw [tokensFrom_untagged untagged, marks_append, marks_replicate, marks_cons '[']
      refine ⟨by omega, fun kept => ?_⟩
      obtain rfl : slashes = 0 := by omega
      obtain ⟨behind, unescaped⟩ := ih.2 (by omega)
      refine ⟨untagged_cons.2 ⟨fun _ => untagged, behind⟩, ?_⟩
      exact List.isChain_cons.2 ⟨fun _ _ same => absurd same (by decide), unescaped⟩
  | case4 place read slashes rest tag after found odd ih =>
      have fewer := marks_tokens_tagged found place read slashes ih.1
      exact ⟨fewer.le, fun kept => absurd fewer kept.not_gt⟩
  | case5 place read slashes rest tag after found even ih =>
      have fewer := marks_tokens_tagged found place read slashes ih.1
      exact ⟨fewer.le, fun kept => absurd fewer kept.not_gt⟩
  | case6 place read slashes char rest slash bracket ih =>
      rw [marks_append, marks_append, marks_replicate, List.replicate_zero, List.nil_append] at ih
      rw [tokensFrom_cons bracket slash, marks_append, marks_replicate, marks_cons char]
      refine ⟨by omega, fun kept => ?_⟩
      obtain ⟨behind, unescaped⟩ := ih.2 (by omega)
      exact ⟨untagged_cons.2 ⟨fun same => absurd same bracket, behind⟩,
        unescaped.behind bracket slash slashes⟩

/-- A text without tags and escapes is plain. -/
theorem tokensFrom_eq_plain (untagged : Untagged text)
    (unescaped : Unescaped (List.replicate slashes '\\' ++ text)) (place : ℕ) (read : List Char) :
    tokensFrom place read slashes text = plain (read ++ (List.replicate slashes '\\' ++ text)) := by
  induction text generalizing place read slashes with
  | nil => rw [tokensFrom, List.append_nil]
  | cons char rest ih =>
      obtain ⟨first, behind⟩ := untagged_cons.1 untagged
      obtain ⟨_, chain, between⟩ := List.isChain_append.1 unescaped
      have next (place : ℕ) (read : List Char) :
          tokensFrom place read 0 rest = plain (read ++ rest) :=
        @ih 0 behind (List.isChain_cons.1 chain).2 place read
      by_cases slash : char = '\\'
      · have same : List.replicate slashes '\\' ++ char :: rest =
            List.replicate (slashes + 1) '\\' ++ rest := by
          rw [slash, List.replicate_succ', List.append_assoc]
          rfl
        rw [same] at unescaped ⊢
        rw [slash, tokensFrom, ih behind unescaped]
      · by_cases bracket : char = '['
        · obtain rfl : slashes = 0 := by
            by_contra escaped
            obtain ⟨count, rfl⟩ := Nat.exists_eq_succ_of_ne_zero escaped
            have last : '\\' ∈ (List.replicate (count + 1) '\\').getLast? := by
              rw [List.replicate_succ', List.getLast?_concat]
              rfl
            exact between _ last char rfl rfl bracket
          rw [bracket, tokensFrom_untagged (first bracket), next]
          simp [openBracket]
        · rw [tokensFrom_cons bracket slash, next]
          simp

/-- A text that loses no marks is legible. -/
theorem legible_of_marks (kept : marks text ≤ marks (plainText (tokensFrom place [] 0 text))) :
    Legible text := by
  have counted := (marks_tokensFrom place [] 0 text).2
  rw [List.replicate_zero, List.nil_append] at counted
  obtain ⟨untagged, unescaped⟩ := counted ((Nat.zero_add _).le.trans kept)
  rw [tokensFrom_eq_plain untagged (by simpa using unescaped), plainText_plain] at kept
  obtain ⟨unnamed, audible⟩ := (marks_visible text).2 kept
  exact ⟨untagged, unescaped, unnamed, audible⟩

theorem Legible.plainly (legible : Legible text) : Plainly text := fun place =>
  @tokensFrom_eq_plain text 0 legible.untagged legible.unescaped place []

theorem Legible.visible_eq (legible : Legible text) :
    visible text = text.filter fun char => !isHidden char := by
  rw [visible, Emoji.replace_eq_self_iff.2 legible.unnamed]

/-- What is not shown of a legible text is blank. -/
theorem Legible.solid_visible (legible : Legible text) : solid (visible text) = solid text := by
  rw [legible.visible_eq, solid, List.filter_filter]
  apply List.filter_congr
  intro char inside
  rcases blank : isBlank char with _ | _
  · rcases hidden : isHidden char with _ | _
    · rfl
    · have gap := legible.audible char inside hidden
      rw [blank] at gap
      cases gap
  · rfl

/-- A character that is no mark makes no difference before a text. -/
theorem legible_cons {char : Char} (plain : isMark char = false) :
    Legible (char :: rest) ↔ Legible rest := by
  simp only [isMark, Bool.or_eq_false_iff, beq_eq_false_iff_ne, Bool.and_eq_false_iff,
    Bool.not_eq_false'] at plain
  obtain ⟨⟨⟨bracket, slash⟩, colon⟩, shown⟩ := plain
  have codes : Emoji.codes (char :: rest) = Emoji.codes rest := by
    rw [Emoji.codes, Emoji.codesFrom, if_neg colon]
    rfl
  have chain : Unescaped (char :: rest) ↔ Unescaped rest := by
    rw [Unescaped, List.isChain_cons]
    exact and_iff_right fun _ _ same => absurd same slash
  constructor
  · rintro ⟨untagged, unescaped, unnamed, audible⟩
    exact ⟨(untagged_cons.1 untagged).2, chain.1 unescaped, codes ▸ unnamed,
      fun other inside => audible other (List.mem_cons_of_mem _ inside)⟩
  · rintro ⟨untagged, unescaped, unnamed, audible⟩
    refine ⟨untagged_cons.2 ⟨fun same => absurd same bracket, untagged⟩, chain.2 unescaped,
      codes.symm ▸ unnamed, List.forall_mem_cons.2 ⟨fun hidden => ?_, audible⟩⟩
    rcases shown with visible | blank
    · rw [visible] at hidden
      cases hidden
    · exact blank

theorem legible_append (plain : marks text = 0) : Legible (text ++ rest) ↔ Legible rest := by
  induction text with
  | nil => exact Iff.rfl
  | cons char text ih =>
      rw [marks, List.countP_eq_zero, List.forall_mem_cons, ← List.countP_eq_zero] at plain
      rw [List.cons_append, legible_cons (by simpa using plain.1), ih plain.2]

end Tokens

end Markup

namespace Console

open Markup Text

section Announce

variable {style before words after : List Char} {markup shown : String}

/-- What is shown of a text with markup is its plain text, in lines that fit. -/
theorem toList_of_announce (announced : announce true markup = .ok shown) : shown.toList =
    Layout.join (Layout.paragraph .fold width (plainText (tokens markup.toList))) := by
  rw [announce, if_pos rfl] at announced
  rcases found : Markup.styled markup.toList with failure | text
  · rw [found] at announced
    cases announced
  · rw [← text_of_styled found]
    simp only [found, bind, Except.bind, pure, Except.pure, StyledText.paragraph] at announced
    split at announced
    · cases announced
    · rename_i laid
      split at laid
      · cases laid
      · cases laid
        cases announced
        rw [String.toList_ofList]

/-- The plain text of a marked text is its words and what is plain behind them. -/
theorem exists_plainText (names : Names style) (inner : Wordy words) (after : List Char) :
    ∃ place, plainText (tokens (marked [] style words after)) =
      visible words ++ plainText (tokensFrom place [] 0 after) := by
  obtain ⟨close, shape⟩ := names.tokens ⟨List.not_mem_nil, List.not_mem_nil⟩ inner after
  refine ⟨close + style.length + 3, ?_⟩
  rw [shape, plainText_append, plainText_append, plainText_append, plainText_plain, plainText_plain,
    plainText_cons_tag]
  rfl

/-- Marks are lost behind a marked word where the text is not legible. -/
theorem marks_of_announce (names : Names style) (inner : Wordy words)
    (whole : markup.toList = marked [] style words after)
    (announced : announce true markup = .ok shown) :
    marks shown.toList ≤ marks words + marks after ∧
      (marks words + marks after ≤ marks shown.toList → Legible after) := by
  obtain ⟨place, shape⟩ := exists_plainText names inner after
  have lines := Layout.solid_paragraph_sublist width (plainText (tokens markup.toList))
  rw [← toList_of_announce announced] at lines
  have fewer := marks_le_of_sublist lines
  have front := (marks_visible words).1
  have back := (marks_tokensFrom place [] 0 after).1
  rw [marks_solid, marks_solid, whole, shape, marks_append] at fewer
  rw [List.replicate_zero, List.nil_append] at back
  have nothing : marks [] = 0 := rfl
  exact ⟨by omega, fun kept => @legible_of_marks after place (by omega)⟩

theorem anchoredAfter_of_true {blank : Bool} {text : List Char}
    (anchored : anchoredAfter true text = true) : anchoredAfter blank text = true := by
  cases text with
  | nil => rfl
  | cons char rest =>
      rw [anchoredAfter, Bool.and_eq_true] at anchored ⊢
      refine ⟨?_, anchored.2⟩
      cases blank with
      | true => exact anchored.1
      | false => rfl

/-- Words start as they did when blanks are taken out of a text. -/
theorem anchoredAfter_filter {blank : Bool} {text : List Char}
    (audible : ∀ char ∈ text, isHidden char = true → isBlank char = true)
    (anchored : anchoredAfter blank text = true) :
    anchoredAfter blank (text.filter fun char => !isHidden char) = true := by
  induction text generalizing blank with
  | nil => rfl
  | cons char rest ih =>
      rw [List.forall_mem_cons] at audible
      rw [anchoredAfter, Bool.and_eq_true] at anchored
      by_cases hidden : isHidden char = true
      · rw [List.filter_cons_of_neg (by simpa using hidden)]
        rw [audible.1 hidden] at anchored
        exact anchoredAfter_of_true (ih audible.2 anchored.2)
      · rw [List.filter_cons_of_pos (by simpa using hidden), anchoredAfter, anchored.1,
          ih audible.2 anchored.2]
        rfl

/-- A legible text behind a marked word is shown with the word. -/
theorem solid_of_announce (names : Names style) (inner : Wordy words)
    (whole : markup.toList = marked [] style words after) (legible : Legible words)
    (legible' : Legible after) (anchored : Anchored (words ++ after))
    (announced : announce true markup = .ok shown) :
    solid shown.toList = solid (words ++ after) := by
  obtain ⟨place, shape⟩ := exists_plainText names inner after
  have text : plainText (tokens markup.toList) = visible words ++ visible after := by
    rw [whole, shape, legible'.plainly, plainText_plain]
  have audible : ∀ char ∈ words ++ after, isHidden char = true → isBlank char = true := by
    intro char inside
    rcases List.mem_append.1 inside with before | behind
    · exact legible.audible char before
    · exact legible'.audible char behind
  have starts : Anchored (visible words ++ visible after) := by
    rw [legible.visible_eq, legible'.visible_eq, ← List.filter_append]
    exact anchoredAfter_filter audible anchored
  rw [toList_of_announce announced, text, Layout.solid_paragraph (by decide) starts, solid_append,
    legible.solid_visible, legible'.solid_visible, solid_append]

end Announce

end Console

end CommandShell
