import CommandShell.Console.Emoji
import CommandShell.Proofs.Text.Words

/-!
What becomes of a text when its emoji are replaced. `replace_eq_self_iff` says that a text stays as
it is exactly when none of the names between its colons is known.
-/

namespace CommandShell.Emoji

/-- An emoji has bytes, and none of them is a control character, a colon, an opening bracket or a
backslash. -/
def isDrawn (emoji : String) : Bool :=
  match emoji.toByteArray.data.toList with
  | [] => false
  | bytes => bytes.all fun byte =>
      decide (0x20 ≤ byte.toNat ∧ byte.toNat ≠ 0x3A ∧ byte.toNat ≠ 0x5B ∧ byte.toNat ≠ 0x5C)

theorem table_drawn : (table.all fun entry => isDrawn entry.2) = true := by
  decide +kernel

/-- A character of one byte is among the bytes of its text. -/
theorem mem_bytes_of_mem {text : String} {char : Char} (inside : char ∈ text.toList)
    (small : char.toNat < 0x80) : char.toNat.toUInt8 ∈ text.toByteArray.data.toList := by
  have size : char.utf8Size = 1 := by
    have bound : char.val.toNat ≤ 127 := Nat.le_of_lt_succ small
    rw [Char.utf8Size_eq_one_iff, UInt32.le_iff_toNat_le]
    exact bound
  have alone : char.toNat.toUInt8 ∈ String.utf8EncodeChar char := by
    rw [String.utf8EncodeChar_eq_singleton size]
    exact List.mem_singleton.2 rfl
  rw [← String.utf8Encode_toList, List.utf8Encode, List.toList_data_toByteArray, List.mem_flatMap]
  exact ⟨char, inside, alone⟩

/-- An emoji has a character, and none that is a control character or means something in a text. -/
theorem drawn_of_lookup {name emoji : String} (known : table.lookup name = some emoji) :
    emoji.toList ≠ [] ∧ ∀ char ∈ emoji.toList,
      0x20 ≤ char.toNat ∧ char ≠ ':' ∧ char ≠ '[' ∧ char ≠ '\\' := by
  obtain ⟨before, after, entries, _⟩ := List.lookup_eq_some_iff.1 known
  have inside : (name, emoji) ∈ table := by
    rw [entries]
    exact List.mem_append_right _ List.mem_cons_self
  have drawn : isDrawn emoji = true := List.all_eq_true.1 table_drawn _ inside
  rcases bytes : emoji.toByteArray.data.toList with _ | ⟨first, rest⟩
  · simp [isDrawn, bytes] at drawn
  · have allowed : ∀ byte ∈ first :: rest, 0x20 ≤ byte.toNat ∧ byte.toNat ≠ 0x3A ∧
        byte.toNat ≠ 0x5B ∧ byte.toNat ≠ 0x5C := by
      simpa [isDrawn, bytes] using drawn
    constructor
    · intro empty
      rw [← String.utf8Encode_toList, empty] at bytes
      cases bytes
    · intro char member
      by_cases small : char.toNat < 0x80
      · have byte := allowed _ (bytes ▸ mem_bytes_of_mem member small)
        have same : char.toNat.toUInt8.toNat = char.toNat := by
          rw [Nat.toUInt8_eq, UInt8.toNat_ofNat']
          omega
        rw [same] at byte
        obtain ⟨drawn, colon, bracket, slash⟩ := byte
        exact ⟨drawn, fun same => colon (same ▸ rfl), fun same => bracket (same ▸ rfl),
          fun same => slash (same ▸ rfl)⟩
      · refine ⟨by omega, ?_, ?_, ?_⟩
        all_goals
          rintro rfl
          exact small (by decide)

/-- The table has a name, whatever form its ending asks for. -/
def Known (name : List Char) : Prop :=
  (table.lookup (String.ofList (Text.lower (selection name).1))).isSome = true

instance : DecidablePred Known := fun _ => inferInstanceAs (Decidable (_ = true))

theorem shown_of_not_known {name : List Char} (unknown : ¬ Known name) :
    shown name = ':' :: name ++ [':'] := by
  have absent : table.lookup (String.ofList (Text.lower (selection name).1)) = none := by
    simpa only [Known, Option.not_isSome_iff_eq_none] using unknown
  simp only [shown, absent]

/-- A selector is no control character and no colon. -/
theorem selection_drawn (name : List Char) :
    ∀ char ∈ (selection name).2, 0x20 ≤ char.toNat ∧ char ≠ ':' := by
  have selectors : ∀ char ∈ [Text.emojiSelector, Text.textSelector],
      0x20 ≤ char.toNat ∧ char ≠ ':' := by
    rw [List.forall_mem_cons, List.forall_mem_singleton]
    decide
  intro char inside
  apply selectors
  unfold selection at inside
  split at inside
  · exact List.mem_cons.2 (.inl (List.mem_singleton.1 inside))
  · split at inside
    · exact List.mem_cons_of_mem _ inside
    · cases inside

theorem shown_of_known {name : List Char} (known : Known name) :
    shown name ≠ [] ∧ ∀ char ∈ shown name, 0x20 ≤ char.toNat ∧ char ≠ ':' := by
  obtain ⟨emoji, found⟩ := Option.isSome_iff_exists.1 known
  obtain ⟨nonempty, drawn⟩ := drawn_of_lookup found
  have shows : shown name = emoji.toList ++ (selection name).2 := by
    simp only [shown, found]
  rw [shows]
  refine ⟨fun empty => nonempty (List.append_eq_nil_iff.1 empty).1, fun char inside => ?_⟩
  rcases List.mem_append.1 inside with before | after
  · obtain ⟨visible, colon, _⟩ := drawn char before
    exact ⟨visible, colon⟩
  · exact selection_drawn name char after

/-- The names between colons, after an open colon and the characters of `name?` read since. -/
def codesFrom (name? : Option (List Char)) : List Char → List (List Char)
  | [] => []
  | char :: rest =>
      match name? with
      | none => if char = ':' then codesFrom (some []) rest else codesFrom none rest
      | some name =>
          if char = ':' then name :: codesFrom none rest
          else if Text.isBlank char then codesFrom none rest
          else codesFrom (some (name ++ [char])) rest

/-- The names between the colons of a text. -/
def codes (text : List Char) : List (List Char) := codesFrom none text

/-- What was read since an open colon, with the colon. -/
def opened : Option (List Char) → List Char
  | none => []
  | some name => ':' :: name

/-- What is replaced first shows no colon where the text has one, so nothing behind it makes up for
it. -/
theorem replaceFrom_eq_iff (name? : Option (List Char)) (text : List Char) :
    replaceFrom name? text = opened name? ++ text ↔ ∀ name ∈ codesFrom name? text, ¬ Known name := by
  induction text generalizing name? with
  | nil => cases name? <;> simp [replaceFrom, codesFrom, opened]
  | cons char rest ih =>
      rcases name? with _ | name
      · by_cases colon : char = ':'
        · subst colon
          exact ih (some [])
        · rw [replaceFrom, codesFrom, if_neg colon, if_neg colon, ← ih none]
          simp [opened]
      · by_cases colon : char = ':'
        · subst colon
          rw [replaceFrom, codesFrom, if_pos rfl, if_pos rfl, List.forall_mem_cons, ← ih none]
          by_cases known : Known name
          · obtain ⟨nonempty, drawn⟩ := shown_of_known known
            obtain ⟨first, others, shows⟩ := List.exists_cons_of_ne_nil nonempty
            have different : first ≠ ':' := (drawn first (by simp [shows])).2
            simp [known, shows, opened, different]
          · simp [known, shown_of_not_known known, opened]
        · by_cases blank : Text.isBlank char = true
          · rw [replaceFrom, codesFrom, if_neg colon, if_neg colon, if_pos blank, if_pos blank,
              ← ih none]
            simp [opened]
          · rw [replaceFrom, codesFrom, if_neg colon, if_neg colon, if_neg blank, if_neg blank,
              ← ih (some (name ++ [char]))]
            simp [opened]

theorem replace_eq_self_iff {text : List Char} :
    replace text = text ↔ ∀ name ∈ codes text, ¬ Known name :=
  replaceFrom_eq_iff none text

/-- Control characters come from the text and not from emoji. -/
theorem mem_of_mem_replaceFrom {name? : Option (List Char)} {text : List Char} {char : Char}
    (inside : char ∈ replaceFrom name? text) (control : char.toNat < 0x20) :
    char ∈ opened name? ++ text := by
  induction text generalizing name? with
  | nil =>
      rcases name? with _ | name
      · cases inside
      · simpa only [replaceFrom, opened, List.append_nil] using inside
  | cons first rest ih =>
      rcases name? with _ | name
      · by_cases colon : first = ':'
        · subst colon
          exact ih inside
        · rw [replaceFrom, if_neg colon, List.mem_cons] at inside
          have later := fun inside => @ih none inside
          simp only [opened, List.nil_append, List.mem_cons] at later ⊢
          exact inside.imp_right later
      · by_cases colon : first = ':'
        · subst colon
          rw [replaceFrom, if_pos rfl, List.mem_append] at inside
          rcases inside with before | after
          · by_cases known : Known name
            · have drawn := ((shown_of_known known).2 char before).1
              omega
            · rw [shown_of_not_known known] at before
              simp only [opened, List.mem_append, List.mem_cons] at before ⊢
              tauto
          · have later := ih after
            simp only [opened, List.nil_append, List.mem_append, List.mem_cons] at later ⊢
            tauto
        · by_cases blank : Text.isBlank first = true
          · rw [replaceFrom, if_neg colon, if_pos blank] at inside
            have later := fun inside => @ih none inside
            simp only [opened, List.nil_append, List.mem_append, List.mem_cons] at inside later ⊢
            tauto
          · rw [replaceFrom, if_neg colon, if_neg blank] at inside
            have later := ih inside
            simp only [opened, List.mem_append, List.mem_cons] at later ⊢
            tauto

theorem mem_of_mem_replace {text : List Char} {char : Char} (inside : char ∈ replace text)
    (control : char.toNat < 0x20) : char ∈ text :=
  mem_of_mem_replaceFrom inside control

/-- No name is open after words without colons. -/
theorem replace_append {words : List Char} (colonless : ':' ∉ words) (text : List Char) :
    replace (words ++ text) = words ++ replace text := by
  unfold replace
  induction words with
  | nil => rfl
  | cons first words ih =>
      rw [List.mem_cons, not_or] at colonless
      rw [List.cons_append, replaceFrom, if_neg (Ne.symm colonless.1), ih colonless.2]
      rfl

/-- A colon before a blank opens no name. -/
theorem replace_colon_blank (text : List Char) :
    replace (':' :: ' ' :: text) = ':' :: ' ' :: replace text := rfl

end CommandShell.Emoji
