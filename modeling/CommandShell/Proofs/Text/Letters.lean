import CommandShell.Proofs.Text.LetterCase
import Mathlib.Data.List.Forall2

/-!
Words in small and capital letters. `lower_eq_iff_anycase` says that nothing else has a word of plain
letters as its lower case: the case table leads to a plain letter from its capital only, and the dotted
capital I, which is lowered to two characters, leaves its dot.
-/

namespace CommandShell

namespace Literal

/-- A word of small letters, each of which may be written as a capital. -/
def Anycase (word text : List Char) : Prop :=
  List.Forall₂ (fun char letter => char = letter ∨ char = letter.toUpper) text word

instance (word text : List Char) : Decidable (Anycase word text) :=
  inferInstanceAs (Decidable (List.Forall₂ _ text word))

variable {word text : List Char}

/-- What holds of the letters of a word, small and capital, holds of the characters that it is written
with. -/
theorem Anycase.forall_mem {property : Char → Prop} (written : Anycase word text)
    (letters : ∀ letter ∈ word, property letter ∧ property letter.toUpper) :
    ∀ char ∈ text, property char := by
  unfold Anycase at written
  induction written with
  | nil => exact List.forall_mem_nil _
  | cons same _ ih =>
      obtain ⟨⟨small, capital⟩, rest⟩ := List.forall_mem_cons.1 letters
      refine List.forall_mem_cons.2 ⟨?_, ih rest⟩
      rcases same with rfl | rfl
      · exact small
      · exact capital

theorem Anycase.exists_cons {letter : Char} (written : Anycase (letter :: word) text) :
    ∃ char after, text = char :: after ∧ (char = letter ∨ char = letter.toUpper) := by
  cases written with
  | cons same _ => exact ⟨_, _, rfl, same⟩

end Literal

namespace Text

theorem toUpper_toNat (char : Char) : char.toUpper.toNat =
    if 97 ≤ char.toNat ∧ char.toNat ≤ 122 then char.toNat - 32 else char.toNat := by
  unfold Char.toUpper
  split
  · rename_i small
    have small' : 97 ≤ char.toNat ∧ char.toNat ≤ 122 := small
    have shift : (char.val + ('A'.val - 'a'.val)).toNat = (char.toNat + (2 ^ 32 - 32)) % 2 ^ 32 :=
      UInt32.toNat_add _ _
    rw [if_pos small', Char.toNat, shift]
    omega
  · rename_i other
    have other' : ¬ (97 ≤ char.toNat ∧ char.toNat ≤ 122) := other
    rw [if_neg other']

/-- A small letter of the Latin alphabet, other than `k`: the Kelvin sign is lowered to `k` as well. -/
structure IsPlainLetter (letter : Char) : Prop where
  low : 0x61 ≤ letter.toNat
  high : letter.toNat ≤ 0x7A
  ne : letter ≠ 'k'

/-- A row leads to no plain letter but from 32 places before it. -/
def CaseRow.spares (row : CaseRow) : Bool :=
  Nat.blt 0x7A row.target || row.target == row.first + 0x20 ||
    (row.target == 0x6B && row.first == row.last)

section Table

theorem lowerRows_spares : lowerRows.all (·.spares) = true := by decide

theorem CaseRow.eq_of_spares {row : CaseRow} {code image : Nat} (spares : row.spares = true)
    (mapped : row.image? code = some image) (high : image ≤ 0x7A) (ne : image ≠ 0x6B) :
    code + 0x20 = image := by
  obtain ⟨⟨low, high', _⟩, rfl⟩ := CaseRow.image?_eq_some_iff.1 mapped
  simp only [CaseRow.spares, Bool.or_eq_true, Bool.and_eq_true, Nat.blt_eq, beq_iff_eq] at spares
  omega

variable {letter char : Char}

/-- What holds of the letters of the alphabet, one by one, holds of a plain letter. -/
@[elab_as_elim]
theorem IsPlainLetter.of_alphabet {motive : Char → Prop} {letter : Char}
    (plain : IsPlainLetter letter)
    (all : ∀ code ∈ List.range' 0x61 26, motive (Char.ofNat code)) : motive letter := by
  have low := plain.low
  have high := plain.high
  have inside : letter.toNat ∈ List.range' 0x61 26 := by
    rw [List.mem_range'_1]
    omega
  rw [← Char.ofNat_toNat letter]
  exact all letter.toNat inside

theorem IsPlainLetter.toNat_toUpper (plain : IsPlainLetter letter) :
    letter.toUpper.toNat + 0x20 = letter.toNat := by
  have low := plain.low
  have small : 97 ≤ letter.toNat ∧ letter.toNat ≤ 122 := ⟨low, plain.high⟩
  rw [toUpper_toNat, if_pos small]
  omega

theorem IsPlainLetter.mapped?_toUpper (plain : IsPlainLetter letter) :
    mapped? lowerRows letter.toUpper = some letter := by
  refine plain.of_alphabet ?_
  decide

/-- The case table leads to a plain letter from its capital only. -/
theorem IsPlainLetter.eq_toUpper (plain : IsPlainLetter letter)
    (mapped : mapped? lowerRows char = some letter) : char = letter.toUpper := by
  obtain ⟨image, found, rfl⟩ := Option.map_eq_some_iff.1 mapped
  obtain ⟨row, inside, leads⟩ := List.exists_of_findSome?_eq_some found
  have code : (Char.ofNat image).toNat = image :=
    CaseRow.toNat_of_leadsToCharacters
      (List.all_eq_true.1 lowerRows_leadsToCharacters row inside) leads
  have high := plain.high
  have ne : image ≠ 0x6B := by
    rintro rfl
    exact plain.ne rfl
  have before := plain.toNat_toUpper
  rw [code] at high before
  have places := CaseRow.eq_of_spares (List.all_eq_true.1 lowerRows_spares row inside) leads high ne
  rw [← Char.toNat_inj]
  omega

end Table

section Letters

variable {letter char : Char}

/-- A plain letter in either case is lowered to itself, wherever it stands. -/
theorem IsPlainLetter.lowerAt_eq (plain : IsPlainLetter letter)
    (spelled : char = letter ∨ char = letter.toUpper) (before after : List Char) :
    lowerAt before char after = [letter] := by
  rcases spelled with rfl | rfl
  · exact (isLower_of_mapped? plain.mapped?_toUpper).lowerAt before after
  · have place := plain.toNat_toUpper
    have high := plain.high
    have ne_sigma : letter.toUpper ≠ 'Σ' := by
      intro sigma
      rw [sigma] at place
      have far : 'Σ'.toNat = 0x3A3 := rfl
      omega
    have ne_dotted : letter.toUpper ≠ 'İ' := by
      intro dotted
      rw [dotted] at place
      have far : 'İ'.toNat = 0x130 := rfl
      omega
    rw [lowerAt, if_neg ne_sigma, if_neg ne_dotted, plain.mapped?_toUpper]
    rfl

/-- A dotted capital I keeps its dot, and any other character is lowered to one. -/
theorem lowerAt_cases (before : List Char) (char : Char) (after : List Char) :
    lowerAt before char after = ['i', '\u0307'] ∨
      ∃ lowered, lowerAt before char after = [lowered] ∧
        (IsPlainLetter lowered → char = lowered ∨ char = lowered.toUpper) := by
  by_cases sigma : char = 'Σ'
  · have small : ∀ lowered ∈ ['ς', 'σ'], ¬ IsPlainLetter lowered := by
      rintro lowered inside ⟨_, high, _⟩
      have far : (['ς', 'σ'].all fun lowered => Nat.blt 0x7A lowered.toNat) = true := rfl
      have this := List.all_eq_true.1 far lowered inside
      rw [Nat.blt_eq] at this
      omega
    rw [lowerAt, if_pos sigma]
    split
    · exact .inr ⟨'ς', rfl, fun plain => absurd plain (small _ (by simp))⟩
    · exact .inr ⟨'σ', rfl, fun plain => absurd plain (small _ (by simp))⟩
  · by_cases dotted : char = 'İ'
    · exact .inl (by rw [lowerAt, if_neg sigma, if_pos dotted])
    · refine .inr ⟨(mapped? lowerRows char).getD char, ?_, ?_⟩
      · rw [lowerAt, if_neg sigma, if_neg dotted]
      · intro plain
        rcases mapped : mapped? lowerRows char with _ | lowered
        · exact .inl rfl
        · rw [mapped] at plain
          exact .inr (plain.eq_toUpper mapped)

end Letters

section Words

variable {word text : List Char}

theorem lowerAfter_eq_iff_anycase (plain : ∀ letter ∈ word, IsPlainLetter letter)
    (before : List Char) : lowerAfter before text = word ↔ Literal.Anycase word text := by
  induction text generalizing before word with
  | nil => rw [lowerAfter, Literal.Anycase, List.forall₂_nil_left_iff, eq_comm]
  | cons char after ih =>
      have others (rest : List Char) (plain : ∀ letter ∈ rest, IsPlainLetter letter) :=
        @ih rest plain (char :: before)
      rw [lowerAfter]
      constructor
      · rintro rfl
        rcases lowerAt_cases before char after with dotted | ⟨lowered, single, only⟩
        · -- The dot is part of the word, and no letter.
          have dot : IsPlainLetter '\u0307' := plain _ (by simp [dotted])
          exact absurd dot.high (by decide)
        · rw [single] at plain ⊢
          have plain' : ∀ letter ∈ lowerAfter (char :: before) after, IsPlainLetter letter :=
            fun letter inside => plain letter (List.mem_append_right _ inside)
          exact .cons (only (plain lowered (by simp))) ((others _ plain').1 rfl)
      · intro written
        cases written with
        | @cons _ letter _ rest spelled written =>
            have plain' : ∀ letter ∈ rest, IsPlainLetter letter :=
              fun letter inside => plain letter (List.mem_cons_of_mem _ inside)
            rw [(plain letter List.mem_cons_self).lowerAt_eq spelled, (others rest plain').2 written]
            rfl

/-- What has a word of plain letters as its lower case is that word in small and capital letters. -/
theorem lower_eq_iff_anycase (plain : ∀ letter ∈ word, IsPlainLetter letter) :
    lower text = word ↔ Literal.Anycase word text :=
  lowerAfter_eq_iff_anycase plain []

example : lower ['\u212A'] = ['k'] := by decide

end Words

end Text

end CommandShell
