import CommandShell.Proofs.Number.Nearest

/-!
Correct rounding: `nearest_ofRatio` says that the double made of a quotient is the one nearest to it.
-/

namespace CommandShell.Binary64

section Whole

variable {whole other : ℕ} {part : ℚ}

theorem distance_below (below : other ≤ whole) (positive : 0 ≤ part) :
    |(other : ℚ) - (whole + part)| = whole + part - other := by
  have below' : (other : ℚ) ≤ whole := by exact_mod_cast below
  rw [abs_of_nonpos (by linarith)]
  ring

theorem distance_above (above : whole < other) (less : part ≤ 1) :
    |(other : ℚ) - (whole + part)| = other - (whole + part) := by
  have above' : (whole : ℚ) + 1 ≤ other := by exact_mod_cast above
  rw [abs_of_nonneg (by linarith)]

/-- Below a half the whole number under a number is nearest to it, and at a half one of two. -/
theorem nearest_below (positive : 0 ≤ part) (half : part ≤ 1 / 2) (other : ℕ) :
    |(whole : ℚ) - (whole + part)| ≤ |(other : ℚ) - (whole + part)| ∧
      (|(other : ℚ) - (whole + part)| = |(whole : ℚ) - (whole + part)| → other ≠ whole →
        part = 1 / 2) := by
  rw [distance_below le_rfl positive]
  rcases lt_trichotomy other whole with below | rfl | above
  · have below' : (other : ℚ) + 1 ≤ whole := by exact_mod_cast below
    rw [distance_below below.le positive]
    exact ⟨by linarith, fun tie _ => by linarith⟩
  · rw [distance_below le_rfl positive]
    exact ⟨le_rfl, fun _ different => absurd rfl different⟩
  · have above' : (whole : ℚ) + 1 ≤ other := by exact_mod_cast above
    rw [distance_above above (by linarith)]
    exact ⟨by linarith, fun tie _ => by linarith⟩

theorem nearest_above (half : 1 / 2 ≤ part) (less : part < 1) (other : ℕ) :
    |((whole + 1 : ℕ) : ℚ) - (whole + part)| ≤ |(other : ℚ) - (whole + part)| ∧
      (|(other : ℚ) - (whole + part)| = |((whole + 1 : ℕ) : ℚ) - (whole + part)| →
        other ≠ whole + 1 → part = 1 / 2) := by
  rw [distance_above (Nat.lt_succ_self whole) less.le]
  push_cast
  rcases lt_trichotomy other (whole + 1) with below | rfl | above
  · have below' : other ≤ whole := Nat.lt_succ_iff.1 below
    have below'' : (other : ℚ) ≤ whole := by exact_mod_cast below'
    rw [distance_below below' (by linarith)]
    exact ⟨by linarith, fun tie _ => by linarith⟩
  · rw [distance_above (Nat.lt_succ_self whole) less.le]
    push_cast
    exact ⟨le_rfl, fun _ different => absurd rfl different⟩
  · have above' : (whole : ℚ) + 2 ≤ other := by exact_mod_cast above
    rw [distance_above (by omega) less.le]
    exact ⟨by linarith, fun tie _ => by linarith⟩

end Whole

section Quotient

variable {numerator denominator : ℕ}

theorem quotient_eq (positive : 0 < denominator) : (numerator : ℚ) / denominator =
    (numerator / denominator : ℕ) + (numerator % denominator : ℕ) / denominator := by
  have positive' : (0 : ℚ) < denominator := by exact_mod_cast positive
  have sum : (numerator : ℚ) =
      denominator * (numerator / denominator : ℕ) + (numerator % denominator : ℕ) := by
    exact_mod_cast (Nat.div_add_mod numerator denominator).symm
  nth_rewrite 1 [sum]
  field_simp

theorem half_le_iff (positive : 0 < denominator) :
    1 / 2 ≤ (numerator : ℚ) / denominator ↔ denominator ≤ 2 * numerator := by
  have positive' : (0 : ℚ) < denominator := by exact_mod_cast positive
  rw [div_le_div_iff₀ two_pos positive', one_mul, mul_comm]
  exact_mod_cast Iff.rfl

theorem le_half_iff (positive : 0 < denominator) :
    (numerator : ℚ) / denominator ≤ 1 / 2 ↔ 2 * numerator ≤ denominator := by
  have positive' : (0 : ℚ) < denominator := by exact_mod_cast positive
  rw [div_le_div_iff₀ positive' two_pos, one_mul, mul_comm]
  exact_mod_cast Iff.rfl

/-- No whole number is nearer to a quotient than the rounded one, and none is as near unless the
rounded one is even. -/
theorem roundDiv_spec (positive : 0 < denominator) (other : ℕ) :
    |(roundDiv numerator denominator : ℚ) - numerator / denominator| ≤
        |(other : ℚ) - numerator / denominator| ∧
      (|(other : ℚ) - numerator / denominator| =
          |(roundDiv numerator denominator : ℚ) - numerator / denominator| →
        other ≠ roundDiv numerator denominator → roundDiv numerator denominator % 2 = 0) := by
  have middle (half : ((numerator % denominator : ℕ) : ℚ) / denominator = 1 / 2) :
      2 * (numerator % denominator) = denominator :=
    Nat.le_antisymm ((le_half_iff positive).1 half.le) ((half_le_iff positive).1 half.ge)
  rw [quotient_eq positive, roundDiv]
  split
  · rename_i up
    have under : ((numerator % denominator : ℕ) : ℚ) / denominator < 1 := by
      rw [div_lt_one (by exact_mod_cast positive)]
      exact_mod_cast Nat.mod_lt _ positive
    obtain ⟨nearest, tied⟩ := nearest_above ((half_le_iff positive).2 (by omega)) under other
    refine ⟨nearest, fun tie different => ?_⟩
    have half := middle (tied tie different)
    omega
  · rename_i down
    have positive' : (0 : ℚ) ≤ ((numerator % denominator : ℕ) : ℚ) / denominator := by positivity
    obtain ⟨nearest, tied⟩ := nearest_below positive' ((le_half_iff positive).2 (by omega)) other
    refine ⟨nearest, fun tie different => ?_⟩
    have half := middle (tied tie different)
    omega

theorem scale_eq (exponent : Int) :
    ((scale numerator denominator exponent).1 : ℚ) / (scale numerator denominator exponent).2 =
      numerator / denominator / 2 ^ exponent := by
  unfold scale
  split
  · rename_i up
    obtain ⟨steps, rfl⟩ := Int.eq_ofNat_of_zero_le up
    simp only [Int.toNat_natCast, Nat.pow_eq, zpow_natCast]
    push_cast
    rw [div_div]
  · rename_i down
    obtain ⟨steps, rfl⟩ : ∃ steps : ℕ, exponent = -(steps : Int) := ⟨(-exponent).toNat, by omega⟩
    simp only [neg_neg, Int.toNat_natCast, Nat.pow_eq, zpow_neg, zpow_natCast]
    push_cast
    rw [div_inv_eq_mul, div_mul_eq_mul_div]

theorem scale_pos (positive : 0 < denominator) (exponent : Int) :
    0 < (scale numerator denominator exponent).2 := by
  unfold scale
  split
  · exact Nat.mul_pos positive (Nat.pow_pos (by decide))
  · exact positive

theorem le_div_iff_le_quotient (positive : 0 < denominator) (count : ℕ) :
    count ≤ numerator / denominator ↔ (count : ℚ) ≤ numerator / denominator := by
  have positive' : (0 : ℚ) < denominator := by exact_mod_cast positive
  rw [Nat.le_div_iff_mul_le positive, le_div_iff₀ positive']
  exact_mod_cast Iff.rfl

theorem log2_bounds {count : ℕ} (some : 0 < count) :
    (2 : ℚ) ^ (count.log2 : Int) ≤ count ∧ (count : ℚ) < 2 ^ ((count.log2 : Int) + 1) := by
  constructor
  · rw [zpow_natCast]
    exact_mod_cast Nat.log2_self_le (by omega)
  · exact_mod_cast Nat.lt_log2_self

/-- The lengths of numerator and denominator give the length of a quotient up to one bit. -/
theorem quotient_bounds (some : 0 < numerator) (positive : 0 < denominator) :
    (2 : ℚ) ^ ((numerator.log2 : Int) - denominator.log2 - 1) ≤ numerator / denominator ∧
      (numerator : ℚ) / denominator < 2 ^ ((numerator.log2 : Int) - denominator.log2 + 1) := by
  have positive' : (0 : ℚ) < denominator := by exact_mod_cast positive
  obtain ⟨least, most⟩ := log2_bounds some
  obtain ⟨least', most'⟩ := log2_bounds positive
  constructor
  · rw [le_div_iff₀ positive']
    calc (2 : ℚ) ^ ((numerator.log2 : Int) - denominator.log2 - 1) * denominator
        ≤ 2 ^ ((numerator.log2 : Int) - denominator.log2 - 1) *
            2 ^ ((denominator.log2 : Int) + 1) := by gcongr
      _ = 2 ^ (numerator.log2 : Int) := by
          rw [← zpow_add₀ (by norm_num)]
          congr 1
          omega
      _ ≤ numerator := least
  · rw [div_lt_iff₀ positive']
    calc (numerator : ℚ) < 2 ^ ((numerator.log2 : Int) + 1) := most
      _ = 2 ^ ((numerator.log2 : Int) - denominator.log2 + 1) *
            2 ^ (denominator.log2 : Int) := by
          rw [← zpow_add₀ (by norm_num)]
          congr 1
          omega
      _ ≤ 2 ^ ((numerator.log2 : Int) - denominator.log2 + 1) * denominator := by gcongr

theorem pow_mul_zpow {base : ℚ} (nonzero : base ≠ 0) (count : ℕ) (exponent : Int) :
    base ^ count * base ^ exponent = base ^ (exponent + count) := by
  rw [zpow_add₀ nonzero, zpow_natCast, mul_comm]

/-- The exponent is the one at which a quotient has 53 bits, or the smallest. -/
theorem exponentFor_spec (some : 0 < numerator) (positive : 0 < denominator) :
    leastExponent ≤ exponentFor numerator denominator ∧
      (numerator : ℚ) / denominator < 2 ^ 53 * 2 ^ exponentFor numerator denominator ∧
      (exponentFor numerator denominator = leastExponent ∨
        2 ^ 52 * 2 ^ exponentFor numerator denominator ≤ (numerator : ℚ) / denominator) := by
  obtain ⟨lower, upper⟩ := quotient_bounds some positive
  unfold exponentFor
  extract_lets guess scaled
  have least : leastExponent ≤ guess := le_max_right _ _
  have long : (numerator.log2 : Int) - denominator.log2 - 53 ≤ guess := le_max_left _ _
  have choice : guess = (numerator.log2 : Int) - denominator.log2 - 53 ∨ guess = leastExponent :=
    max_choice _ _
  have filled : Nat.pow 2 precision ≤ scaled.1 / scaled.2 ↔
      2 ^ 53 * 2 ^ guess ≤ (numerator : ℚ) / denominator := by
    rw [le_div_iff_le_quotient (scale_pos positive guess), scale_eq,
      le_div_iff₀ (two_zpow_pos guess)]
    norm_num [precision]
  split
  · rename_i full
    refine ⟨by omega, ?_, .inr ?_⟩
    · refine upper.trans_le ?_
      rw [pow_mul_zpow two_ne_zero]
      exact zpow_le_zpow_right₀ (by norm_num) (by push_cast; omega)
    · refine le_trans (le_of_eq ?_) (filled.1 full)
      rw [pow_mul_zpow two_ne_zero, pow_mul_zpow two_ne_zero]
      congr 1
      omega
  · rename_i loose
    refine ⟨least, lt_of_not_ge fun full => loose (filled.2 full), ?_⟩
    rcases choice with exact | smallest
    · right
      refine le_trans (le_of_eq ?_) lower
      rw [pow_mul_zpow two_ne_zero]
      congr 1
      push_cast
      omega
    · exact .inl smallest

/-- A quotient is rounded to the nearest point on the grid of its exponent. -/
theorem roundDiv_grid (positive : 0 < denominator) (exponent : Int) (other : ℕ) :
    let scaled := scale numerator denominator exponent
    |(roundDiv scaled.1 scaled.2 : ℚ) * 2 ^ exponent - numerator / denominator| ≤
        |(other : ℚ) * 2 ^ exponent - numerator / denominator| ∧
      (|(other : ℚ) * 2 ^ exponent - numerator / denominator| =
          |(roundDiv scaled.1 scaled.2 : ℚ) * 2 ^ exponent - numerator / denominator| →
        other ≠ roundDiv scaled.1 scaled.2 → roundDiv scaled.1 scaled.2 % 2 = 0) := by
  intro scaled
  have unit := two_zpow_pos exponent
  have stretch (count : ℕ) : |(count : ℚ) * 2 ^ exponent - numerator / denominator| =
      |(count : ℚ) - scaled.1 / scaled.2| * 2 ^ exponent := by
    rw [scale_eq, ← abs_of_pos unit, ← abs_mul, abs_of_pos unit]
    congr 1
    field_simp
  obtain ⟨nearest, even⟩ := @roundDiv_spec scaled.1 _ (scale_pos positive exponent) other
  rw [stretch, stretch]
  refine ⟨mul_le_mul_of_nonneg_right nearest unit.le, ?_⟩
  intro tie different
  exact even (mul_right_cancel₀ unit.ne' tie) different

/-- What is nearest on a grid stays between two points of the grid around the number. -/
theorem le_of_nearest {number unit : ℚ} {count bound : ℕ} (positive : 0 < unit)
    (below : number ≤ bound * unit)
    (nearest : |(count : ℚ) * unit - number| ≤ |(bound : ℚ) * unit - number|) : count ≤ bound := by
  by_contra more
  have more' : (bound : ℚ) + 1 ≤ count := by exact_mod_cast not_le.1 more
  have far : (bound + 1 : ℚ) * unit ≤ count * unit := by gcongr
  rw [abs_of_nonneg (by linarith), abs_of_nonneg (by linarith)] at nearest
  linarith

theorem ge_of_nearest {number unit : ℚ} {count bound : ℕ} (positive : 0 < unit)
    (above : bound * unit ≤ number)
    (nearest : |(count : ℚ) * unit - number| ≤ |(bound : ℚ) * unit - number|) : bound ≤ count := by
  by_contra less
  have less' : (count : ℚ) + 1 ≤ bound := by exact_mod_cast not_le.1 less
  have far : (count + 1 : ℚ) * unit ≤ bound * unit := by gcongr
  rw [abs_of_nonpos (by linarith), abs_of_nonpos (by linarith)] at nearest
  linarith

section Rounded

variable {exponent : Int}

/-- A quotient rounded at its exponent has at most one bit more than 53, which is then a power of
two. -/
theorem roundDiv_bounds (positive : 0 < denominator)
    (upper : (numerator : ℚ) / denominator < 2 ^ 53 * 2 ^ exponent)
    (lower : exponent = leastExponent ∨ 2 ^ 52 * 2 ^ exponent ≤ (numerator : ℚ) / denominator) :
    let scaled := scale numerator denominator exponent
    roundDiv scaled.1 scaled.2 ≤ 2 ^ 53 ∧
      (2 ^ 52 ≤ roundDiv scaled.1 scaled.2 ∨ exponent = leastExponent) := by
  intro scaled
  have unit := two_zpow_pos exponent
  have grid := @roundDiv_grid numerator _ positive exponent
  constructor
  · exact le_of_nearest unit (by push_cast; exact upper.le) (grid (2 ^ 53)).1
  · apply lower.symm.imp_left
    intro reached
    exact ge_of_nearest unit (by push_cast; exact reached) (grid (2 ^ 52)).1

/-- A double with the value of a rounded quotient is nearest to the quotient. -/
theorem nearest_of_roundDiv {negative : Bool} {double : Binary64} (positive : 0 < denominator)
    (lower : exponent = leastExponent ∨ 2 ^ 52 * 2 ^ exponent ≤ (numerator : ℚ) / denominator)
    (greatest : exponent ≤ greatestExponent) (canonical : double.Canonical)
    (sign : double.isNegative = negative) :
    let scaled := scale numerator denominator exponent
    double.magnitude = roundDiv scaled.1 scaled.2 * 2 ^ exponent →
      (roundDiv scaled.1 scaled.2 % 2 = 0 → double.Even) →
        Nearest negative (numerator / denominator) double := by
  intro scaled onGrid even
  have grid := @roundDiv_grid numerator _ positive exponent
  apply nearest_of_grid canonical sign greatest lower onGrid
  · intro other
    exact (grid other).1
  · intro other tie different
    exact even ((grid other).2 tie different)

theorem infinite_of_greatest_lt (negative : Bool) (beyond : greatestExponent < exponent)
    (lower : exponent = leastExponent ∨ 2 ^ 52 * 2 ^ exponent ≤ (numerator : ℚ) / denominator) :
    Nearest negative (numerator / denominator) (.infinite negative) := by
  have reached := lower.resolve_left (ne_of_gt (lt_trans (by decide) beyond))
  refine nearest_infinite negative (le_trans ?_ reached)
  calc (2 : ℚ) ^ (1024 : Int) = 2 ^ 52 * 2 ^ (greatestExponent + 1) := two_zpow_beyond.symm
    _ ≤ 2 ^ 52 * 2 ^ exponent := by
        gcongr
        · norm_num
        · exact beyond

end Rounded

/-- The double made of a quotient is the one nearest to it. -/
theorem nearest_ofRatio (negative : Bool) (positive : 0 < denominator) :
    Nearest negative (numerator / denominator) (ofRatio negative numerator denominator) := by
  unfold ofRatio
  split
  · rename_i none
    rw [none, Nat.cast_zero, zero_div]
    exact nearest_zero negative le_rfl (two_zpow_pos _).le
  · rename_i some
    obtain ⟨least, upper, lower⟩ := exponentFor_spec (Nat.pos_of_ne_zero some) positive
    obtain ⟨most, bits⟩ := roundDiv_bounds positive upper lower
    extract_lets exponent scaled significand carried significand' exponent'
    rcases lt_or_ge greatestExponent exponent with beyond | greatest
    · have past : greatestExponent < exponent' := by
        unfold exponent'
        split <;> omega
      rw [if_pos past]
      exact infinite_of_greatest_lt negative beyond lower
    · by_cases full : carried
      · have raised : exponent' = exponent + 1 := if_pos full
        have halved : significand' = 2 ^ 52 := if_pos full
        have full' : significand = 2 ^ 53 := full
        split
        · rename_i past
          have top : exponent = greatestExponent := by omega
          refine nearest_of_roundDiv positive lower greatest trivial rfl ?_ fun _ => trivial
          show (2 : ℚ) ^ (1024 : Int) = (significand : ℚ) * 2 ^ exponent
          rw [full', top, Nat.cast_pow, ← zpow_natCast, Nat.cast_ofNat, ← zpow_add₀ (by norm_num)]
          rfl
        · rename_i inside
          rw [raised, halved]
          refine nearest_of_roundDiv positive lower greatest
            ⟨by norm_num, by omega, by omega, .inl le_rfl⟩ rfl ?_ fun _ => rfl
          show ((2 ^ 52 : ℕ) : ℚ) * 2 ^ (exponent + 1) = (significand : ℚ) * 2 ^ exponent
          rw [full', zpow_add_one₀ (by norm_num)]
          push_cast
          ring
      · have kept : exponent' = exponent := if_neg full
        have kept' : significand' = significand := if_neg full
        have less : significand < 2 ^ 53 := lt_of_le_of_ne most full
        rw [kept, kept', if_neg (not_lt.2 greatest)]
        exact nearest_of_roundDiv positive lower greatest ⟨less, least, greatest, bits⟩ rfl rfl id

end Quotient

end CommandShell.Binary64
