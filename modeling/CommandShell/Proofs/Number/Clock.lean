import CommandShell.Program
import CommandShell.Proofs.Number.Rounding

/-!
The durations that the clock accepts. `sleepFailure?_eq_none_iff` says that these are the numbers of
seconds from zero on whose nanoseconds, as the nearest double, stay below the limit of the clock.
-/

namespace CommandShell.Binary64

section Bounds

variable {negative : Bool} {number : ℚ} {double bound : Binary64}

/-- Rounding goes beyond no double above a number. -/
theorem Nearest.magnitude_le_of_le (nearest : Nearest negative number double)
    (canonical : bound.Canonical) (above : number ≤ bound.magnitude) :
    double.magnitude ≤ bound.magnitude := by
  by_contra larger
  have larger' := not_le.1 larger
  have closer := nearest.nearest bound canonical
  rw [abs_of_nonneg (by linarith), abs_of_nonneg (by linarith)] at closer
  linarith

/-- Rounding goes beyond no double below a number. -/
theorem Nearest.le_magnitude_of_le (nearest : Nearest negative number double)
    (canonical : bound.Canonical) (below : bound.magnitude ≤ number) :
    bound.magnitude ≤ double.magnitude := by
  by_contra smaller
  have smaller' := not_le.1 smaller
  have closer := nearest.nearest bound canonical
  rw [abs_of_nonpos (by linarith), abs_of_nonpos (by linarith)] at closer
  linarith

theorem magnitude_nonneg (double : Binary64) : 0 ≤ double.magnitude := by
  cases double with
  | nan => exact le_rfl
  | infinite negative => exact (two_zpow_pos 1024).le
  | finite negative significand exponent =>
      exact mul_nonneg (Nat.cast_nonneg significand) (two_zpow_pos exponent).le

theorem canonical_of_bits {significand : ℕ} {exponent : Int} (bits : significand < 2 ^ 53)
    (full : 2 ^ 52 ≤ significand) (least : leastExponent ≤ exponent)
    (greatest : exponent ≤ greatestExponent) :
    (finite negative significand exponent).Canonical := ⟨bits, least, greatest, .inl full⟩

end Bounds

section Limit

/-- The limit of the clock as a double. -/
def limit (negative : Bool) : Binary64 := .finite negative (2 ^ 52) 11

/-- The last double before the limit of the clock. -/
def beforeLimit (negative : Bool) : Binary64 := .finite negative (2 ^ 53 - 1) 10

variable {negative : Bool} {number : ℚ} {double : Binary64}

theorem canonical_limit (negative : Bool) : (limit negative).Canonical :=
  canonical_of_bits (by norm_num) le_rfl (by decide) (by decide)

theorem canonical_beforeLimit (negative : Bool) : (beforeLimit negative).Canonical :=
  canonical_of_bits (by norm_num) (by norm_num) (by decide) (by decide)

theorem magnitude_limit (negative : Bool) : (limit negative).magnitude = 2 ^ 63 := by
  show ((2 ^ 52 : ℕ) : ℚ) * 2 ^ (11 : ℤ) = 2 ^ 63
  norm_num

theorem magnitude_beforeLimit (negative : Bool) :
    (beforeLimit negative).magnitude = 2 ^ 63 - 1024 := by
  show ((2 ^ 53 - 1 : ℕ) : ℚ) * 2 ^ (10 : ℤ) = 2 ^ 63 - 1024
  norm_num

/-- No double lies between the last one before the limit and the limit. -/
theorem Canonical.le_of_lt_limit (canonical : double.Canonical)
    (below : double.magnitude < 2 ^ 63) : double.magnitude ≤ 2 ^ 63 - 1024 := by
  have unit : (2 : ℚ) ^ (10 : ℤ) = 1024 := by norm_num
  rcases @Canonical.grid double 10 canonical (by decide) with ⟨count, onGrid⟩ | ⟨_, small⟩
  · rw [onGrid, unit] at below ⊢
    have fewer : (count : ℚ) < (2 ^ 53 : ℕ) := by
      push_cast
      linarith
    have fewer' : count + 1 ≤ 2 ^ 53 := Nat.succ_le_of_lt (Nat.cast_lt.1 fewer)
    have fewer'' : (count : ℚ) + 1 ≤ 2 ^ 53 := by exact_mod_cast fewer'
    linarith
  · rw [unit] at small
    linarith

/-- A number rounds to the limit or beyond it when it is not nearer to the last double before it. At
the same distance from both the limit is the even one. -/
theorem Nearest.limit_le_iff (nearest : Nearest negative number double) :
    2 ^ 63 ≤ double.magnitude ↔ 2 ^ 63 - 512 ≤ number := by
  have before := nearest.nearest _ (canonical_beforeLimit negative)
  have limit := nearest.nearest _ (canonical_limit negative)
  rw [magnitude_beforeLimit] at before
  rw [magnitude_limit] at limit
  constructor
  · intro reaches
    by_contra short
    have short' := not_le.1 short
    have nearer : |2 ^ 63 - 1024 - number| < 2 ^ 63 - number :=
      abs_lt.2 ⟨by linarith, by linarith⟩
    rw [abs_of_nonneg (by linarith)] at before
    linarith
  · intro reaches
    by_contra short
    have under := nearest.canonical.le_of_lt_limit (not_le.1 short)
    have distance : |double.magnitude - number| = number - double.magnitude := by
      rw [abs_of_nonpos (by linarith)]
      ring
    rcases reaches.eq_or_lt with middle | above
    · have gap : |2 ^ 63 - number| = 512 := by
        rw [← middle]
        norm_num
      rw [distance, gap] at limit
      have last : double.magnitude = 2 ^ 63 - 1024 := by linarith
      have tie : |(Binary64.limit negative).magnitude - number| = |double.magnitude - number| := by
        rw [magnitude_limit, gap, distance, last, ← middle]
        norm_num
      have even := nearest.even _ (canonical_limit negative) tie (by
        rw [magnitude_limit, last]
        norm_num)
      have same : double = beforeLimit negative :=
        eq_of_magnitude nearest.canonical (canonical_beforeLimit negative) nearest.sign
          (last.trans (magnitude_beforeLimit negative).symm)
      have odd : ¬ (2 ^ 53 - 1) % 2 = 0 := by decide
      rw [same] at even
      exact odd even
    · have nearer : |2 ^ 63 - number| < number - double.magnitude :=
        abs_lt.2 ⟨by linarith, by linarith⟩
      rw [distance] at limit
      linarith

end Limit

section Sleep

/-- The first number of seconds that is too long for the clock. -/
def clockBound : ℚ := (2 ^ 63 - 512) / 10 ^ 9

theorem exists_floor (negative : Bool) (significand : ℕ) (exponent : Int) :
    ∃ count, (finite negative significand exponent).floor? = some count ∧
      ∀ bound : ℕ, bound ≤ count ↔ (bound : ℚ) ≤ (finite negative significand exponent).magnitude := by
  rcases le_or_gt 0 exponent with whole | part
  · refine ⟨significand * 2 ^ exponent.toNat, ?_, fun bound => ?_⟩
    · rw [floor?, if_pos whole]
      rfl
    · have value : (finite negative significand exponent).magnitude =
          (significand * 2 ^ exponent.toNat : ℕ) := by
        show (significand : ℚ) * 2 ^ exponent = _
        conv_lhs => rw [← Int.toNat_of_nonneg whole]
        push_cast
        rw [zpow_natCast]
      rw [value, Nat.cast_le]
  · refine ⟨significand / 2 ^ (-exponent).toNat, ?_, fun bound => ?_⟩
    · rw [floor?, if_neg (not_le.2 part)]
      rfl
    · have value : (finite negative significand exponent).magnitude =
          (significand : ℚ) / (2 ^ (-exponent).toNat : ℕ) := by
        show (significand : ℚ) * 2 ^ exponent = _
        have steps : ((-exponent).toNat : Int) = -exponent := Int.toNat_of_nonneg (by omega)
        rw [Nat.cast_pow, Nat.cast_ofNat, ← zpow_natCast, steps, zpow_neg, div_inv_eq_mul]
      rw [value, le_div_iff_le_quotient (Nat.pow_pos (by decide))]

theorem nearest_nanoseconds (significand : ℕ) (exponent : Int) :
    Nearest false (significand * 2 ^ exponent * 10 ^ 9) (nanoseconds significand exponent) := by
  have positive : 0 < (scale (significand * Nat.pow 10 9) 1 (-exponent)).2 :=
    scale_pos Nat.one_pos _
  have rounded : Nearest false _ (nanoseconds significand exponent) :=
    nearest_ofRatio false positive
  have quotient := @scale_eq (significand * Nat.pow 10 9) 1 (-exponent)
  rw [quotient] at rounded
  have value : ((significand * Nat.pow 10 9 : ℕ) : ℚ) / (1 : ℕ) / 2 ^ (-exponent) =
      significand * 2 ^ exponent * 10 ^ 9 := by
    rw [Nat.pow_eq, zpow_neg, div_inv_eq_mul]
    push_cast
    ring
  rwa [value] at rounded

/-- The clock counts the nanoseconds of a duration that is below its bound. -/
theorem lt_clockBound_iff (significand : ℕ) (exponent : Int) :
    (significand : ℚ) * 2 ^ exponent < clockBound ↔
      ∃ count, (nanoseconds significand exponent).floor? = some count ∧ count < clockLimit := by
  have nearest := nearest_nanoseconds significand exponent
  have reaches := nearest.limit_le_iff
  have scaled : (significand : ℚ) * 2 ^ exponent < clockBound ↔
      ¬ (2 ^ 63 - 512 : ℚ) ≤ significand * 2 ^ exponent * 10 ^ 9 := by
    rw [clockBound, lt_div_iff₀ (by norm_num), not_le]
  rw [scaled, ← reaches]
  rcases rounded : nanoseconds significand exponent with
    ⟨negative, significand', exponent'⟩ | negative | _
  · obtain ⟨count, floor, bounds⟩ := exists_floor negative significand' exponent'
    have cast : ((2 ^ 63 : ℕ) : ℚ) = 2 ^ 63 := by rw [Nat.cast_pow, Nat.cast_ofNat]
    rw [floor, ← cast, ← bounds, not_le]
    constructor
    · exact fun below => ⟨count, rfl, below⟩
    · rintro ⟨count', same, below⟩
      rwa [Option.some.inj same]
  · have beyond : (2 : ℚ) ^ (63 : ℤ) ≤ 2 ^ (1024 : ℤ) := zpow_le_zpow_right₀ one_le_two (by decide)
    constructor
    · exact fun short => absurd beyond short
    · rintro ⟨_, none, _⟩
      cases none
  · rw [rounded] at nearest
    exact absurd nearest.canonical id

theorem clockBound_pos : 0 < clockBound := by
  unfold clockBound
  norm_num

theorem sleepFailure?_finite (negative : Bool) (significand : ℕ) (exponent : Int) :
    (finite negative significand exponent).sleepFailure? = none ↔
      (negative = true → significand = 0) ∧ (significand : ℚ) * 2 ^ exponent < clockBound := by
  have counts := lt_clockBound_iff significand exponent
  rw [sleepFailure?]
  rcases floor : (nanoseconds significand exponent).floor? with _ | count
  · simp [floor, counts]
  · have within : (∃ count', some count = some count' ∧ count' < clockLimit) ↔ count < clockLimit := by
      simp
    rw [floor, within] at counts
    rw [counts]
    cases negative with
    | false =>
        by_cases long : clockLimit ≤ count
        · simp [long]
        · simp [long, not_le.1 long]
    | true =>
        by_cases zero : significand = 0
        · subst zero
          simp [← counts, clockBound_pos]
        · simp only [↓reduceIte, zero, false_and, iff_false, forall_const]
          split <;> simp

/-- The clock accepts the numbers of seconds from zero up to its bound, and nothing else. -/
theorem sleepFailure?_eq_none_iff {double : Binary64} :
    double.sleepFailure? = none ↔
      double ≠ .nan ∧ 0 ≤ double.signedMagnitude ∧ double.signedMagnitude < clockBound := by
  cases double with
  | nan => simp [sleepFailure?]
  | infinite negative =>
      refine iff_of_false (by simp [sleepFailure?]) ?_
      rintro ⟨_, least, most⟩
      cases negative with
      | false =>
          have small : clockBound < 2 ^ (63 : ℤ) := by
            unfold clockBound
            norm_num
          have beyond : (2 : ℚ) ^ (63 : ℤ) ≤ 2 ^ (1024 : ℤ) :=
            zpow_le_zpow_right₀ one_le_two (by decide)
          exact absurd (small.trans_le beyond) (not_lt.2 (le_of_lt most))
      | true => exact absurd (neg_lt_zero.2 (two_zpow_pos 1024)) (not_lt.2 least)
  | finite negative significand exponent =>
      have unit := two_zpow_pos exponent
      rw [sleepFailure?_finite]
      cases negative with
      | false => simp [signedMagnitude, isNegative, magnitude, unit.le, mul_nonneg]
      | true =>
          by_cases zero : significand = 0
          · subst zero
            simp [signedMagnitude, isNegative, magnitude]
          · have some : (0 : ℚ) < significand := by exact_mod_cast Nat.pos_of_ne_zero zero
            simp [signedMagnitude, isNegative, magnitude, zero, mul_pos some unit]

end Sleep

section Milliseconds

/-- The last number of milliseconds that is not too long for the clock. -/
def lastDelay : ℤ := 9223372036854

variable {delay : ℤ} {duration : Binary64}

theorem magnitude_pos_of_ne_zero {negative : Bool} (other : delay ≠ 0)
    (nearest : Nearest negative (delay.natAbs / 1000) duration) : 0 < duration.magnitude := by
  let small : Binary64 := .finite negative (2 ^ 52) (-62)
  have canonical : small.Canonical := canonical_of_bits (by norm_num) le_rfl (by decide) (by decide)
  have value : small.magnitude = 1 / 1024 := by
    show ((2 ^ 52 : ℕ) : ℚ) * 2 ^ (-62 : ℤ) = 1 / 1024
    norm_num
  have one : (1 : ℚ) ≤ delay.natAbs := by exact_mod_cast Int.natAbs_pos.2 other
  have below : small.magnitude ≤ (delay.natAbs : ℚ) / 1000 := by
    rw [value, le_div_iff₀ (by norm_num)]
    linarith
  have reached := nearest.le_magnitude_of_le canonical below
  rw [value] at reached
  linarith

theorem magnitude_lt_iff {number : ℕ} (nearest : Nearest false (number / 1000) duration) :
    duration.magnitude < clockBound ↔ (number : ℤ) ≤ lastDelay := by
  constructor
  · intro short
    by_contra long
    let first : Binary64 := .finite false 4835703278458634 (-19)
    have canonical : first.Canonical :=
      canonical_of_bits (by norm_num) (by norm_num) (by decide) (by decide)
    have value : first.magnitude = 4835703278458634 / 2 ^ 19 := by
      show ((4835703278458634 : ℕ) : ℚ) * 2 ^ (-19 : ℤ) = 4835703278458634 / 2 ^ 19
      norm_num
    have many : (9223372036855 : ℚ) ≤ number := by
      have many' : 9223372036855 ≤ number := by
        unfold lastDelay at long
        omega
      exact_mod_cast many'
    have below : first.magnitude ≤ (number : ℚ) / 1000 := by
      rw [value, le_div_iff₀ (by norm_num)]
      linarith
    have reached := nearest.le_magnitude_of_le canonical below
    rw [value] at reached
    unfold clockBound at short
    linarith
  · intro few
    let last : Binary64 := .finite false 4835703278458372 (-19)
    have canonical : last.Canonical :=
      canonical_of_bits (by norm_num) (by norm_num) (by decide) (by decide)
    have value : last.magnitude = 4835703278458372 / 2 ^ 19 := by
      show ((4835703278458372 : ℕ) : ℚ) * 2 ^ (-19 : ℤ) = 4835703278458372 / 2 ^ 19
      norm_num
    have few' : (number : ℚ) ≤ 9223372036854 := by
      unfold lastDelay at few
      exact_mod_cast few
    have above : (number : ℚ) / 1000 ≤ last.magnitude := by
      rw [value, div_le_iff₀ (by norm_num)]
      linarith
    have within := nearest.magnitude_le_of_le canonical above
    rw [value] at within
    unfold clockBound
    linarith

/-- The clock accepts a number of milliseconds that is not below zero and not beyond the last one it
can count. -/
theorem sleepFailure?_milliseconds
    (nearest : Nearest (decide (delay < 0)) (delay.natAbs / 1000) duration) :
    duration.sleepFailure? = none ↔ 0 ≤ delay ∧ delay ≤ lastDelay := by
  have number : duration ≠ .nan := by
    rintro rfl
    exact nearest.canonical
  rw [sleepFailure?_eq_none_iff, and_iff_right number, signedMagnitude, nearest.sign]
  rcases lt_or_ge delay 0 with below | above
  · have positive := magnitude_pos_of_ne_zero (ne_of_lt below) nearest
    rw [if_pos (decide_eq_true below)]
    refine iff_of_false ?_ ?_
    · rintro ⟨least, _⟩
      linarith
    · rintro ⟨least, _⟩
      omega
  · have unsigned : decide (delay < 0) = false := decide_eq_false (not_lt.2 above)
    have whole : ((delay.natAbs : ℕ) : ℤ) = delay := Int.natAbs_of_nonneg above
    rw [unsigned] at nearest ⊢
    rw [if_neg Bool.false_ne_true, magnitude_lt_iff nearest, whole]
    exact and_congr_left' (iff_of_true duration.magnitude_nonneg above)

end Milliseconds

end CommandShell.Binary64
