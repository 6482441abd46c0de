import CommandShell.Number.Binary64
import Mathlib.Algebra.Order.Field.Power
import Mathlib.Data.Rat.Cast.Order
import Mathlib.Tactic.FieldSimp
import Mathlib.Tactic.Linarith
import Mathlib.Tactic.NormNum
import Mathlib.Tactic.Positivity
import Mathlib.Tactic.Ring

/-!
The double nearest to a number, and of two nearest ones the even one. `nearest_of_grid` compares with
the multiples of one power of two only, and `Nearest.unique` says that there is one nearest double.
-/

namespace CommandShell.Binary64

/-- The magnitude of a double. An infinity stands where the double after the largest one would be. -/
def magnitude : Binary64 → ℚ
  | .finite _ significand exponent => significand * 2 ^ exponent
  | .infinite _ => 2 ^ (1024 : Int)
  | .nan => 0

def isNegative : Binary64 → Bool
  | .finite negative _ _ => negative
  | .infinite negative => negative
  | .nan => false

/-- A double as a number. What is not a number counts as zero. -/
def signedMagnitude (double : Binary64) : ℚ :=
  if double.isNegative then -double.magnitude else double.magnitude

/-- A finite double has 53 bits, and all of them count unless its exponent is the smallest. -/
def Canonical : Binary64 → Prop
  | .finite _ significand exponent =>
      significand < 2 ^ 53 ∧ leastExponent ≤ exponent ∧ exponent ≤ greatestExponent ∧
        (2 ^ 52 ≤ significand ∨ exponent = leastExponent)
  | .infinite _ => True
  | .nan => False

/-- The last bit of a double is not set. -/
def Even : Binary64 → Prop
  | .finite _ significand _ => significand % 2 = 0
  | .infinite _ => True
  | .nan => True

/-- The double nearest to a number of a given sign; of two nearest ones the even one. -/
structure Nearest (negative : Bool) (number : ℚ) (double : Binary64) : Prop where
  canonical : double.Canonical
  sign : double.isNegative = negative
  nearest : ∀ other : Binary64, other.Canonical →
    |double.magnitude - number| ≤ |other.magnitude - number|
  even : ∀ other : Binary64, other.Canonical →
    |other.magnitude - number| = |double.magnitude - number| →
      other.magnitude ≠ double.magnitude → double.Even

section Finite

variable {negative : Bool} {significand : ℕ} {exponent : Int}

theorem two_zpow_pos (exponent : Int) : (0 : ℚ) < 2 ^ exponent := zpow_pos (by norm_num) _

theorem isBelowZero_iff {double : Binary64} :
    double.isBelowZero = true ↔ double.signedMagnitude < 0 := by
  cases double with
  | nan => simp [isBelowZero, signedMagnitude, isNegative, magnitude]
  | infinite negative =>
      cases negative <;> simp [isBelowZero, signedMagnitude, isNegative, magnitude]
  | finite negative significand exponent =>
      have unit := two_zpow_pos exponent
      cases negative with
      | false => simp [isBelowZero, signedMagnitude, isNegative, magnitude, unit.le, mul_nonneg]
      | true =>
          simp [isBelowZero, signedMagnitude, isNegative, magnitude, mul_pos_iff_of_pos_right unit,
            Nat.pos_iff_ne_zero]

theorem two_zpow_beyond : (2 : ℚ) ^ 52 * 2 ^ (greatestExponent + 1) = 2 ^ (1024 : Int) := by
  rw [← zpow_natCast, ← zpow_add₀ (by norm_num)]
  rfl

theorem lt_of_canonical (canonical : (finite negative significand exponent).Canonical) :
    (finite negative significand exponent).magnitude < 2 ^ 52 * 2 ^ (exponent + 1) := by
  have bits : (significand : ℚ) < 2 ^ 53 := by exact_mod_cast canonical.1
  calc (significand : ℚ) * 2 ^ exponent < 2 ^ 53 * 2 ^ exponent :=
        mul_lt_mul_of_pos_right bits (two_zpow_pos exponent)
    _ = 2 ^ 52 * 2 ^ (exponent + 1) := by
        rw [zpow_add_one₀ (by norm_num)]
        ring

theorem le_of_canonical (canonical : (finite negative significand exponent).Canonical)
    (above : leastExponent < exponent) :
    2 ^ 52 * 2 ^ exponent ≤ (finite negative significand exponent).magnitude := by
  have filled : (2 : ℚ) ^ 52 ≤ significand := by
    exact_mod_cast canonical.2.2.2.resolve_right (ne_of_gt above)
  exact mul_le_mul_of_nonneg_right filled (two_zpow_pos exponent).le

theorem lt_of_exponent_lt {negative' : Bool} {significand' : ℕ} {exponent' : Int}
    (canonical : (finite negative significand exponent).Canonical)
    (canonical' : (finite negative' significand' exponent').Canonical)
    (less : exponent < exponent') :
    (finite negative significand exponent).magnitude <
      (finite negative' significand' exponent').magnitude :=
  calc (finite negative significand exponent).magnitude
      < 2 ^ 52 * 2 ^ (exponent + 1) := lt_of_canonical canonical
    _ ≤ 2 ^ 52 * 2 ^ exponent' := by
        gcongr
        · norm_num
        · exact less
    _ ≤ (finite negative' significand' exponent').magnitude :=
        le_of_canonical canonical' (lt_of_le_of_lt canonical.2.1 less)

theorem finite_lt (canonical : (finite negative significand exponent).Canonical) :
    (finite negative significand exponent).magnitude < 2 ^ (1024 : Int) :=
  calc (finite negative significand exponent).magnitude
      < 2 ^ 52 * 2 ^ (exponent + 1) := lt_of_canonical canonical
    _ ≤ 2 ^ 52 * 2 ^ (greatestExponent + 1) := by
        gcongr
        · norm_num
        · exact canonical.2.2.1
    _ = 2 ^ (1024 : Int) := two_zpow_beyond

end Finite

section Grid

variable {double : Binary64} {low high : Int}

theorem exists_multiple (le : low ≤ high) (count : ℕ) :
    ∃ multiple : ℕ, (count : ℚ) * 2 ^ high = multiple * 2 ^ low := by
  obtain ⟨steps, rfl⟩ := Int.le.dest le
  refine ⟨count * 2 ^ steps, ?_⟩
  rw [zpow_add₀ (by norm_num), zpow_natCast]
  push_cast
  ring

/-- A double lies on the grid of an exponent, or below the part of it where every bit counts. -/
theorem Canonical.grid (canonical : double.Canonical) (greatest : low ≤ greatestExponent) :
    (∃ count : ℕ, double.magnitude = count * 2 ^ low) ∨
      (leastExponent < low ∧ double.magnitude < 2 ^ 52 * 2 ^ low) := by
  cases double with
  | nan => cases canonical
  | infinite negative =>
      have below : low ≤ 1024 := greatest.trans (by decide)
      obtain ⟨count, same⟩ := exists_multiple below 1
      exact .inl ⟨count, by rw [← same, Nat.cast_one, one_mul]; rfl⟩
  | finite negative significand exponent =>
      rcases le_or_gt low exponent with above | below
      · exact .inl (exists_multiple above significand)
      · refine .inr ⟨lt_of_le_of_lt canonical.2.1 below, ?_⟩
        calc (finite negative significand exponent).magnitude
            < 2 ^ 52 * 2 ^ (exponent + 1) := lt_of_canonical canonical
          _ ≤ 2 ^ 52 * 2 ^ low := by
              gcongr
              · norm_num
              · exact below

/-- What is nearest on the grid of an exponent is nearest of all doubles, unless the number lies
below the part of the grid where every bit counts. -/
theorem nearest_of_grid {negative : Bool} {number : ℚ} {count : ℕ} (canonical : double.Canonical)
    (sign : double.isNegative = negative) (greatest : low ≤ greatestExponent)
    (covers : low = leastExponent ∨ 2 ^ 52 * 2 ^ low ≤ number)
    (onGrid : double.magnitude = count * 2 ^ low)
    (nearest : ∀ other : ℕ, |(count : ℚ) * 2 ^ low - number| ≤ |(other : ℚ) * 2 ^ low - number|)
    (even : ∀ other : ℕ, |(other : ℚ) * 2 ^ low - number| = |(count : ℚ) * 2 ^ low - number| →
      other ≠ count → double.Even) : Nearest negative number double := by
  -- Below the grid even its first point with all bits is nearer, and that is a point of the grid.
  have farther : ∀ other : Binary64, leastExponent < low →
      other.magnitude < 2 ^ 52 * 2 ^ low →
        |double.magnitude - number| < |other.magnitude - number| := by
    intro other above below
    have reached : 2 ^ 52 * 2 ^ low ≤ number := covers.resolve_left (ne_of_gt above)
    have first := nearest (2 ^ 52)
    rw [← onGrid, Nat.cast_pow, Nat.cast_ofNat] at first
    calc |double.magnitude - number| ≤ |2 ^ 52 * 2 ^ low - number| := first
      _ = number - 2 ^ 52 * 2 ^ low := by rw [abs_of_nonpos (by linarith)]; ring
      _ < number - other.magnitude := by linarith
      _ ≤ |other.magnitude - number| := by rw [abs_sub_comm]; exact le_abs_self _
  refine ⟨canonical, sign, ?_, ?_⟩
  · intro other canonical'
    rcases canonical'.grid greatest with ⟨place, onGrid'⟩ | ⟨above, below⟩
    · rw [onGrid, onGrid']
      exact nearest place
    · exact (farther other above below).le
  · intro other canonical' tie different
    rcases canonical'.grid greatest with ⟨place, onGrid'⟩ | ⟨above, below⟩
    · rw [onGrid, onGrid'] at tie different
      exact even place tie fun same => different (by rw [same])
    · exact absurd tie (farther other above below).ne'

theorem Canonical.magnitude_le (canonical : double.Canonical) :
    double.magnitude ≤ 2 ^ (1024 : Int) := by
  cases double with
  | nan => cases canonical
  | infinite negative => exact le_rfl
  | finite negative significand exponent => exact (finite_lt canonical).le

theorem nearest_infinite (negative : Bool) {number : ℚ} (beyond : 2 ^ (1024 : Int) ≤ number) :
    Nearest negative number (.infinite negative) := by
  refine ⟨trivial, rfl, ?_, fun _ _ _ _ => trivial⟩
  intro other canonical
  have below := canonical.magnitude_le
  show |(2 : ℚ) ^ (1024 : Int) - number| ≤ _
  rw [abs_of_nonpos (by linarith), abs_of_nonpos (by linarith)]
  linarith

theorem canonical_zero (negative : Bool) : (zero negative).Canonical :=
  ⟨by decide, by decide, by decide, .inr rfl⟩

theorem nearest_zero (negative : Bool) {number : ℚ} (positive : 0 ≤ number)
    (small : number ≤ 2 ^ (-1075 : Int)) : Nearest negative number (zero negative) := by
  have onGrid : (zero negative).magnitude = (0 : ℕ) * 2 ^ leastExponent := rfl
  refine nearest_of_grid (canonical_zero negative) rfl (by decide) (.inl rfl) onGrid ?_
    fun _ _ _ => rfl
  intro other
  rw [Nat.cast_zero, zero_mul, zero_sub, abs_neg, abs_of_nonneg positive]
  rcases Nat.eq_zero_or_pos other with rfl | some
  · rw [Nat.cast_zero, zero_mul, zero_sub, abs_neg, abs_of_nonneg positive]
  · have half : (2 : ℚ) ^ leastExponent = 2 * 2 ^ (-1075 : Int) := by
      rw [show leastExponent = -1075 + 1 from rfl, zpow_add_one₀ (by norm_num), mul_comm]
    have some' : (1 : ℚ) ≤ other := by exact_mod_cast some
    have far : (2 : ℚ) ^ leastExponent ≤ other * 2 ^ leastExponent :=
      le_mul_of_one_le_left (two_zpow_pos _).le some'
    calc number ≤ other * 2 ^ leastExponent - number := by linarith
      _ ≤ |other * 2 ^ leastExponent - number| := le_abs_self _

end Grid

section Unique

variable {negative : Bool} {number : ℚ} {double other : Binary64}

/-- Doubles of one sign and magnitude are the same. -/
theorem eq_of_magnitude (canonical : double.Canonical) (canonical' : other.Canonical)
    (sign : double.isNegative = other.isNegative) (same : double.magnitude = other.magnitude) :
    double = other := by
  cases double with
  | nan => cases canonical
  | infinite negative =>
      cases other with
      | nan => cases canonical'
      | infinite negative' => exact congrArg infinite sign
      | finite negative' significand' exponent' => exact absurd same (finite_lt canonical').ne'
  | finite negative significand exponent =>
      cases other with
      | nan => cases canonical'
      | infinite negative' => exact absurd same (finite_lt canonical).ne
      | finite negative' significand' exponent' =>
          obtain rfl : negative = negative' := sign
          rcases lt_trichotomy exponent exponent' with less | rfl | more
          · exact absurd same (lt_of_exponent_lt canonical canonical' less).ne
          · have same' : (significand : ℚ) = significand' :=
              mul_right_cancel₀ (two_zpow_pos exponent).ne' same
            rw [Nat.cast_inj.1 same']
          · exact absurd same (lt_of_exponent_lt canonical' canonical more).ne'

/-- Behind an even double and before every larger one of its sign there is an odd one. -/
theorem exists_odd (canonical : double.Canonical) (canonical' : other.Canonical)
    (sign : double.isNegative = other.isNegative) (even : double.Even) (even' : other.Even)
    (less : double.magnitude < other.magnitude) :
    ∃ middle : Binary64, middle.Canonical ∧ double.magnitude < middle.magnitude ∧
      middle.magnitude < other.magnitude := by
  cases double with
  | nan => cases canonical
  | infinite negative => exact absurd canonical'.magnitude_le (not_le.2 less)
  | finite negative significand exponent =>
      have ⟨bits, least, greatest, full⟩ := canonical
      have even₀ : significand % 2 = 0 := even
      have next : (finite negative (significand + 1) exponent).Canonical :=
        ⟨by omega, least, greatest, full.imp_left fun filled => by omega⟩
      have unit := two_zpow_pos exponent
      have larger : (finite negative significand exponent).magnitude <
          (finite negative (significand + 1) exponent).magnitude := by
        show (significand : ℚ) * 2 ^ exponent < ((significand + 1 : ℕ) : ℚ) * 2 ^ exponent
        push_cast
        linarith
      have within : (finite negative (significand + 1) exponent).magnitude ≤ other.magnitude := by
        rcases canonical'.grid greatest with ⟨count, onGrid⟩ | ⟨above, below⟩
        · rw [onGrid] at less ⊢
          have later : significand < count := by
            exact_mod_cast lt_of_mul_lt_mul_right less unit.le
          have later' : ((significand + 1 : ℕ) : ℚ) ≤ count := by exact_mod_cast later
          exact mul_le_mul_of_nonneg_right later' unit.le
        · exact absurd (below.trans_le (le_of_canonical canonical above)) (not_lt.2 less.le)
      refine ⟨_, next, larger, lt_of_le_of_ne within fun same => ?_⟩
      rw [← eq_of_magnitude next canonical' sign same] at even'
      have odd : (significand + 1) % 2 = 0 := even'
      omega

theorem abs_sub_lt_of_between {low high middle : ℚ} (tie : |low - number| = |high - number|)
    (above : low < middle) (below : middle < high) : |middle - number| < |low - number| := by
  rcases abs_eq_abs.1 tie with same | opposite
  · linarith
  · rw [abs_of_neg (by linarith : low - number < 0), abs_lt]
    constructor <;> linarith

/-- Two nearest doubles of different magnitudes would both be even, and the odd one between them
would be nearer. -/
theorem Nearest.magnitude_le (nearest : Nearest negative number double)
    (nearest' : Nearest negative number other) : other.magnitude ≤ double.magnitude := by
  by_contra larger
  have less : double.magnitude < other.magnitude := not_le.1 larger
  have tie := le_antisymm (nearest.nearest other nearest'.canonical)
    (nearest'.nearest double nearest.canonical)
  have even := nearest.even other nearest'.canonical tie.symm less.ne'
  have even' := nearest'.even double nearest.canonical tie less.ne
  obtain ⟨middle, canonical, above, below⟩ := exists_odd nearest.canonical nearest'.canonical
    (nearest.sign.trans nearest'.sign.symm) even even' less
  exact absurd (nearest.nearest middle canonical)
    (not_le.2 (abs_sub_lt_of_between tie above below))

/-- There is one nearest double. -/
theorem Nearest.unique (nearest : Nearest negative number double)
    (nearest' : Nearest negative number other) : double = other :=
  eq_of_magnitude nearest.canonical nearest'.canonical (nearest.sign.trans nearest'.sign.symm)
    (le_antisymm (nearest'.magnitude_le nearest) (nearest.magnitude_le nearest'))

end Unique

end CommandShell.Binary64
