import CommandShell.Text.Quoted

/-!
Texts of printable characters. Such a text stays on one line. Whatever is quoted becomes printable,
and a number is written with printable characters.
-/

namespace CommandShell.Text

/-- The characters at which a text is broken into lines. -/
def lineBreaks : List Char :=
  ['\n', '\x0b', '\x0c', '\r', '\x1c', '\x1d', '\x1e', '\u0085', '\u2028', '\u2029']

/-- Every character of a text is printable. -/
def Printable (text : List Char) : Prop := ∀ char ∈ text, isPrintable char = true

section Printable

theorem printable_nil : Printable [] := fun _ inside => absurd inside List.not_mem_nil

theorem printable_cons {char : Char} {text : List Char} :
    Printable (char :: text) ↔ isPrintable char = true ∧ Printable text := by
  simp [Printable]

theorem printable_append {first second : List Char} :
    Printable (first ++ second) ↔ Printable first ∧ Printable second := by
  simp [Printable, or_imp, forall_and]

/-- No line ends inside a printable text. -/
theorem Printable.not_mem_lineBreaks {text : List Char} (printable : Printable text) :
    ∀ char ∈ text, char ∉ lineBreaks := by
  intro char inside breaks
  have unprintable : lineBreaks.all (!isPrintable ·) = true := by decide +kernel
  have hidden := List.all_eq_true.1 unprintable char breaks
  rw [printable char inside] at hidden
  exact absurd hidden (by decide)

/-- The characters between the blank and the tilde are printable. -/
theorem isPrintable_of_le {char : Char} (low : 0x20 ≤ char.toNat) (high : char.toNat ≤ 0x7E) :
    isPrintable char = true := by
  have outside : unprintable.all (fun range => decide (range.2 < 0x20) || decide (0x7E < range.1)) =
      true := by decide +kernel
  have uncovered : covers unprintable char.toNat = false := by
    rw [covers, List.any_eq_false]
    intro range inside
    have apart := List.all_eq_true.1 outside range inside
    simp only [Bool.or_eq_true, decide_eq_true_eq] at apart
    simp only [decide_eq_true_eq, not_and]
    omega
  rw [isPrintable, uncovered]
  rfl

theorem printable_of_all {text : List Char}
    (all : text.all (fun char => decide (0x20 ≤ char.toNat ∧ char.toNat ≤ 0x7E)) = true) :
    Printable text := by
  intro char inside
  obtain ⟨low, high⟩ := of_decide_eq_true (List.all_eq_true.1 all char inside)
  exact isPrintable_of_le low high

end Printable

namespace Quoted

theorem mark_eq_or (text : List Char) : mark text = '\'' ∨ mark text = '"' := by
  unfold mark
  split
  · exact .inr rfl
  · exact .inl rfl

theorem isPrintable_hexDigit (value : Nat) : isPrintable (hexDigit value) = true := by
  have digits : Printable ((List.range 16).map Nat.digitChar) :=
    printable_of_all (by decide)
  have below : value % 16 ∈ List.range 16 := List.mem_range.2 (Nat.mod_lt _ (by decide))
  exact digits _ (List.mem_map_of_mem below)

theorem printable_hex (width value : Nat) : Printable (hex width value) := by
  induction width generalizing value with
  | zero => exact printable_nil
  | succ width ih =>
      rw [hex, printable_append]
      exact ⟨ih _, by simpa [Printable] using isPrintable_hexDigit value⟩

theorem isPrintable_mark {mark : Char} (marks : mark = '\'' ∨ mark = '"') :
    isPrintable mark = true := by
  rcases marks with rfl | rfl
  · exact isPrintable_of_le (by decide) (by decide)
  · exact isPrintable_of_le (by decide) (by decide)

/-- Whatever is escaped becomes printable. -/
theorem printable_escape {mark : Char} (marks : mark = '\'' ∨ mark = '"') (char : Char) :
    Printable (escape mark char) := by
  have backslash : isPrintable '\\' = true := isPrintable_of_le (by decide) (by decide)
  unfold escape
  split
  · rename_i special
    have shown : isPrintable char = true := by
      rcases special with rfl | rfl
      · exact isPrintable_mark marks
      · exact backslash
    simp [Printable, backslash, shown]
  · split
    · exact printable_of_all (by decide)
    · split
      · exact printable_of_all (by decide)
      · split
        · exact printable_of_all (by decide)
        · split
          · rename_i shown
            simpa [Printable] using shown
          · have letter : Printable ['x', 'u', 'U'] := printable_of_all (by decide)
            split
            · simp [printable_cons, backslash, letter _, printable_hex]
            · split
              · simp [printable_cons, backslash, letter _, printable_hex]
              · simp [printable_cons, backslash, letter _, printable_hex]

theorem printable_encode (text : List Char) : Printable (encode text) := by
  have marks := mark_eq_or text
  have inner : Printable (text.flatMap (escape (mark text))) := by
    intro char inside
    obtain ⟨source, _, written⟩ := List.mem_flatMap.1 inside
    exact printable_escape marks source char written
  have shown := isPrintable_mark marks
  rw [encode, printable_append, printable_cons]
  exact ⟨⟨shown, inner⟩, by simpa [Printable] using shown⟩

end Quoted

end CommandShell.Text

namespace CommandShell

open Text (Printable printable_append printable_of_all isPrintable_of_le)

theorem printable_quoted (text : String) : Printable (quoted text).toList := by
  rw [quoted, String.toList_ofList]
  exact Text.Quoted.printable_encode _

theorem printable_quotedTuple (words : List String) : Printable (quotedTuple words).toList := by
  have brackets (inner : String) (last : String) (printable : Printable inner.toList)
      (ends : Printable last.toList) : Printable ("(" ++ inner ++ last).toList := by
    rw [String.toList_append, String.toList_append, printable_append, printable_append]
    exact ⟨⟨printable_of_all (by decide), printable⟩, ends⟩
  have joined : Printable (", ".intercalate (words.map quoted)).toList := by
    induction words with
    | nil => exact Text.printable_nil
    | cons word rest ih =>
        rcases rest with _ | ⟨next, rest⟩
        · simpa using printable_quoted word
        · rw [List.map_cons, List.map_cons, String.intercalate_cons_cons, String.toList_append,
            String.toList_append, printable_append, printable_append]
          exact ⟨⟨printable_quoted word, printable_of_all (by decide)⟩, ih⟩
  unfold quotedTuple
  split
  · exact brackets _ _ (printable_quoted _) (printable_of_all (by decide))
  · exact brackets _ _ joined (printable_of_all (by decide))

/-- A number is written with digits and at most a sign. -/
theorem isDigit_or_of_mem_toString {number : Int} {char : Char}
    (inside : char ∈ (toString number).toList) : char.isDigit = true ∨ char = '-' := by
  have digits (count : Nat) (among : char ∈ (Nat.repr count).toList) : char.isDigit = true := by
    rw [Nat.toList_repr] at among
    exact Nat.isDigit_of_mem_toDigits (by decide) (by decide) among
  cases number with
  | ofNat count => exact .inl (digits count inside)
  | negSucc count =>
      have written : char ∈ ("-" ++ Nat.repr (count + 1)).toList := inside
      rw [String.toList_append, List.mem_append] at written
      rcases written with sign | among
      · exact .inr (List.mem_singleton.1 sign)
      · exact .inl (digits _ among)

theorem printable_toString (number : Int) : Printable (toString number).toList := by
  intro char inside
  rcases isDigit_or_of_mem_toString inside with digit | rfl
  · obtain ⟨low, high⟩ := Char.isDigit_iff_toNat.1 digit
    have zero : '0'.toNat = 0x30 := rfl
    have nine : '9'.toNat = 0x39 := rfl
    exact isPrintable_of_le (by omega) (by omega)
  · exact isPrintable_of_le (by decide) (by decide)

end CommandShell
