import CommandShell.Proofs.Text.Printable

/-!
Reading quoted texts. `readQuoted_encode` says that a quoted text is read back, whatever follows it,
and `readTuple_quotedTuple` that quoted words between brackets are. So different texts have different
quoted forms.
-/

namespace CommandShell.Text.Quoted

/-- The value of a lower-case hexadecimal digit. -/
def hexValue (digit : Char) : Nat :=
  if digit.isDigit then digit.toNat - '0'.toNat else digit.toNat - 'a'.toNat + 10

/-- The number that hexadecimal digits write. -/
def unhex (digits : List Char) : Nat :=
  digits.foldl (fun value digit => 16 * value + hexValue digit) 0

theorem hexValue_hexDigit (value : Nat) : hexValue (hexDigit value) = value % 16 := by
  have values : (List.range 16).all (fun value => hexValue (Nat.digitChar value) == value) = true := by
    decide
  have below : value % 16 ∈ List.range 16 := List.mem_range.2 (Nat.mod_lt _ (by decide))
  exact eq_of_beq (List.all_eq_true.1 values _ below)

theorem hex_length (width value : Nat) : (hex width value).length = width := by
  induction width generalizing value with
  | zero => rfl
  | succ width ih => simp [hex, ih]

theorem unhex_hex {width value : Nat} (fits : value < Nat.pow 16 width) :
    unhex (hex width value) = value := by
  induction width generalizing value with
  | zero =>
      have zero : value = 0 := Nat.lt_one_iff.1 fits
      simp [hex, unhex, zero]
  | succ width ih =>
      have fewer : value / 16 < Nat.pow 16 width := Nat.div_lt_of_lt_mul (by
        rwa [Nat.mul_comm])
      have upper := ih fewer
      simp only [unhex] at upper
      rw [hex, unhex, List.foldl_append, upper]
      show 16 * (value / 16) + hexValue (hexDigit value) = value
      rw [hexValue_hexDigit]
      exact Nat.div_add_mod value 16

/-- The character with a code of `width` digits at the front of a text. -/
def readCode (width : Nat) (text : List Char) : Char × List Char :=
  (Char.ofNat (unhex (text.take width)), text.drop width)

/-- Read what follows a backslash. -/
def readEscape : List Char → Option (Char × List Char)
  | [] => none
  | 't' :: rest => some ('\t', rest)
  | 'n' :: rest => some ('\n', rest)
  | 'r' :: rest => some ('\r', rest)
  | 'x' :: rest => some (readCode 2 rest)
  | 'u' :: rest => some (readCode 4 rest)
  | 'U' :: rest => some (readCode 8 rest)
  | char :: rest => some (char, rest)

theorem readEscape_length {text rest : List Char} {char : Char}
    (read : readEscape text = some (char, rest)) : rest.length < text.length := by
  unfold readEscape at read
  split at read
  · cases read
  all_goals
    cases read
    simp only [List.length_cons, List.length_drop]
    omega

/-- Read up to the mark that ends the quotes. The second text is what follows it. -/
def readUntil (mark : Char) (text : List Char) : Option (List Char × List Char) :=
  match text with
  | [] => none
  | char :: rest =>
      if char = mark then some ([], rest)
      else if char = '\\' then
        match _read : readEscape rest with
        | none => none
        | some (char, rest) => (readUntil mark rest).map fun read => (char :: read.1, read.2)
      else (readUntil mark rest).map fun read => (char :: read.1, read.2)
termination_by text.length
decreasing_by
  · have shorter := readEscape_length _read
    simp only [List.length_cons]
    omega
  · simp

/-- Read a quoted text. The second text is what follows it. -/
def readQuoted : List Char → Option (List Char × List Char)
  | [] => none
  | mark :: text => readUntil mark text

theorem toNat_lt (char : Char) : char.toNat < 0x110000 := by
  have valid : char.toNat.isValidChar := char.valid
  rw [Nat.isValidChar] at valid
  omega

theorem readCode_hex {width : Nat} {char : Char} (fits : char.toNat < Nat.pow 16 width)
    (rest : List Char) : readCode width (hex width char.toNat ++ rest) = (char, rest) := by
  have cut := hex_length width char.toNat
  rw [readCode, List.take_left' cut, List.drop_left' cut, unhex_hex fits, Char.ofNat_toNat]

/-- A character stands for itself, or for a backslash and what is read back as the character. -/
theorem escape_eq {mark : Char} (marks : mark = '\'' ∨ mark = '"') (char : Char) :
    (escape mark char = [char] ∧ char ≠ mark ∧ char ≠ '\\') ∨
      ∃ code, escape mark char = '\\' :: code ∧
        ∀ rest, readEscape (code ++ rest) = some (char, rest) := by
  unfold escape
  split
  · rename_i special
    refine .inr ⟨[char], rfl, fun rest => ?_⟩
    have known : char = '\'' ∨ char = '"' ∨ char = '\\' := by
      rcases special with rfl | rfl
      · rcases marks with rfl | rfl
        · exact .inl rfl
        · exact .inr (.inl rfl)
      · exact .inr (.inr rfl)
    rcases known with rfl | rfl | rfl <;> rfl
  · rename_i ordinary
    rw [not_or] at ordinary
    split
    · rename_i tab
      exact .inr ⟨['t'], rfl, fun rest => tab ▸ rfl⟩
    · split
      · rename_i feed
        exact .inr ⟨['n'], rfl, fun rest => feed ▸ rfl⟩
      · split
        · rename_i home
          exact .inr ⟨['r'], rfl, fun rest => home ▸ rfl⟩
        · split
          · exact .inl ⟨rfl, ordinary⟩
          -- Codes have two, four or eight digits, as the number needs.
          · right
            split
            · rename_i small
              exact ⟨_, rfl, fun rest => congrArg some (readCode_hex small rest)⟩
            · split
              · rename_i middle
                exact ⟨_, rfl, fun rest => congrArg some (readCode_hex middle rest)⟩
              · have fits : char.toNat < Nat.pow 16 8 := by
                  have bound : char.toNat < 0x110000 := toNat_lt char
                  have power : Nat.pow 16 8 = 0x100000000 := by decide
                  omega
                exact ⟨_, rfl, fun rest => congrArg some (readCode_hex fits rest)⟩

theorem readUntil_escape {mark : Char} (marks : mark = '\'' ∨ mark = '"') (char : Char)
    (rest : List Char) : readUntil mark (escape mark char ++ rest) =
      (readUntil mark rest).map fun read => (char :: read.1, read.2) := by
  rcases escape_eq marks char with ⟨plain, notMark, notBackslash⟩ | ⟨code, escaped, reads⟩
  · rw [plain, List.singleton_append, readUntil, if_neg notMark, if_neg notBackslash]
  · have different : '\\' ≠ mark := by
      rcases marks with rfl | rfl <;> decide
    rw [escaped, List.cons_append, readUntil, if_neg different, if_pos rfl]
    split
    · rename_i none
      rw [reads] at none
      cases none
    · rename_i read
      rw [reads] at read
      cases read
      rfl

/-- A quoted text is read back, whatever follows it. -/
theorem readQuoted_encode (text rest : List Char) :
    readQuoted (encode text ++ rest) = some (text, rest) := by
  have marks := mark_eq_or text
  generalize marked : mark text = mark at marks
  have inner (text : List Char) : readUntil mark (text.flatMap (escape mark) ++ mark :: rest) =
      some (text, rest) := by
    induction text with
    | nil => rw [List.flatMap_nil, List.nil_append, readUntil, if_pos rfl]
    | cons char others ih =>
        rw [List.flatMap_cons, List.append_assoc, readUntil_escape marks, ih]
        rfl
  simpa [encode, marked, readQuoted] using inner text

theorem readUntil_length {mark : Char} {text rest word : List Char}
    (read : readUntil mark text = some (word, rest)) : rest.length < text.length := by
  fun_induction readUntil mark text generalizing word with
  | case1 => cases read
  | case2 others =>
      cases read
      exact Nat.lt_succ_self _
  | case3 => cases read
  | case4 others char following escaped _ ih =>
      obtain ⟨inner, readInner, same⟩ := Option.map_eq_some_iff.1 read
      cases same
      have shorter := readEscape_length escaped
      have shortest := ih readInner
      simp only [List.length_cons]
      omega
  | case5 char others _ _ ih =>
      obtain ⟨inner, readInner, same⟩ := Option.map_eq_some_iff.1 read
      cases same
      exact Nat.lt_succ_of_lt (ih readInner)

theorem readQuoted_length {text rest word : List Char} (read : readQuoted text = some (word, rest)) :
    rest.length < text.length := by
  cases text with
  | nil => cases read
  | cons mark text => exact Nat.lt_succ_of_lt (readUntil_length read)

end CommandShell.Text.Quoted

namespace CommandShell

open Text.Quoted (readQuoted readQuoted_encode readQuoted_length)

/-- Read quoted words up to the bracket that ends them. -/
def readWords (text : List Char) : Option (List String) :=
  match _read : readQuoted text with
  | none => none
  | some (word, ',' :: ' ' :: rest) => (readWords rest).map (String.ofList word :: ·)
  | some (word, _) => some [String.ofList word]
termination_by text.length
decreasing_by
  have shorter := readQuoted_length _read
  simp only [List.length_cons] at shorter
  omega

/-- Read quoted words between round brackets. -/
def readTuple : List Char → Option (List String)
  | ['(', ')'] => some []
  | '(' :: text => readWords text
  | _ => none

theorem readQuoted_quoted (word : String) (rest : List Char) :
    readQuoted ((quoted word).toList ++ rest) = some (word.toList, rest) := by
  rw [quoted, String.toList_ofList, readQuoted_encode]

theorem quoted_injective : Function.Injective quoted := by
  intro first second same
  have read := readQuoted_quoted first []
  rw [same, readQuoted_quoted] at read
  exact (String.toList_inj.1 (Prod.mk.inj (Option.some.inj read)).1).symm

theorem readWords_last (word : String) {ending : List Char}
    (ends : ∀ rest, ending ≠ ',' :: ' ' :: rest) :
    readWords ((quoted word).toList ++ ending) = some [word] := by
  have read := readQuoted_quoted word ending
  rw [readWords]
  split
  · rename_i none
    rw [read] at none
    cases none
  · rename_i further
    rw [read] at further
    cases further
    exact absurd rfl (ends _)
  · rename_i found
    rw [read] at found
    cases found
    rw [String.ofList_toList]

theorem readWords_next (word : String) (rest : List Char) :
    readWords ((quoted word).toList ++ ',' :: ' ' :: rest) =
      (readWords rest).map (word :: ·) := by
  have read := readQuoted_quoted word (',' :: ' ' :: rest)
  rw [readWords]
  split
  · rename_i none
    rw [read] at none
    cases none
  · rename_i further
    rw [read] at further
    cases further
    rw [String.ofList_toList]
  · rename_i other found
    rw [read] at found
    cases found
    exact absurd rfl (other _)

/-- The list of at least one quoted word, with commas and blanks between the words. -/
theorem readWords_intercalate (first : String) (rest : List String) :
    readWords ((", ".intercalate ((first :: rest).map quoted)).toList ++ [')']) =
      some (first :: rest) := by
  induction rest generalizing first with
  | nil => simpa using readWords_last first (by simp : ∀ rest, [')'] ≠ ',' :: ' ' :: rest)
  | cons next rest ih =>
      have step := readWords_next first
        ((", ".intercalate ((next :: rest).map quoted)).toList ++ [')'])
      rw [ih] at step
      simpa [String.intercalate_cons_cons] using step

/-- A bracket before a quoted word opens the words. -/
theorem readTuple_open (first : String) (rest : List Char) :
    readTuple ('(' :: ((quoted first).toList ++ rest)) =
      readWords ((quoted first).toList ++ rest) := by
  have marked : (quoted first).toList = Text.Quoted.encode first.toList := String.toList_ofList
  rw [marked, Text.Quoted.encode, List.cons_append, List.cons_append]
  rcases Text.Quoted.mark_eq_or first.toList with apostrophe | quotation
  · rw [apostrophe]
    rfl
  · rw [quotation]
    rfl

/-- Quoted words are read back, so different words have different quoted forms. -/
theorem readTuple_quotedTuple (words : List String) :
    readTuple (quotedTuple words).toList = some words := by
  unfold quotedTuple
  split
  · rename_i word
    have read := readWords_last word (by simp : ∀ rest, [',', ')'] ≠ ',' :: ' ' :: rest)
    rw [← readTuple_open] at read
    simpa using read
  · rename_i several
    cases words with
    | nil => rfl
    | cons first rest =>
        cases rest with
        | nil => exact absurd rfl (several first)
        | cons next rest =>
            have begins : ", ".intercalate ((first :: next :: rest).map quoted) = quoted first ++
                (", " ++ ", ".intercalate ((next :: rest).map quoted)) := by
              simp [String.intercalate_cons_cons, String.append_assoc]
            have read := readWords_intercalate first (next :: rest)
            rw [begins, String.toList_append, List.append_assoc, ← readTuple_open] at read
            rw [begins]
            simpa using read

end CommandShell
