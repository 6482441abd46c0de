import CommandShell.Proofs.Number.Digits
import CommandShell.Proofs.Number.Rounding
import CommandShell.Proofs.Text.Letters

/-!
The grammar of doubles. `nearest_scaleTen` says that digits and a power of ten become the nearest
double, also where the power is too large to compute, and `double?_eq_some_iff` that a double is
read where the grammar spells it.
-/

namespace CommandShell.Literal

section Scale

variable {digits : List ℕ}

theorem ten_pow_large : 10 * (2 : ℚ) ^ (1024 : ℤ) ≤ 10 ^ (311 : ℤ) := by
  have bound : 10 * 2 ^ 1024 ≤ 10 ^ 311 := by decide +kernel
  rw [zpow_ofNat, zpow_ofNat]
  exact_mod_cast bound

theorem ten_pow_tiny : (10 : ℚ) ^ (-331 : ℤ) ≤ 2 ^ (-1075 : ℤ) := by
  have bound : 2 ^ 1075 ≤ 10 ^ 331 := by decide +kernel
  rw [zpow_neg, zpow_neg, zpow_ofNat, zpow_ofNat]
  gcongr
  exact_mod_cast bound

/-- Beyond the bounds the nearest double is the same for every number of so many digits. -/
theorem nearest_scaleTen (negative : Bool) (small : ∀ digit ∈ digits, digit < 10)
    (first : ∀ digit ∈ digits.head?, digit ≠ 0) (exponent : ℤ) :
    Binary64.Nearest negative (positional digits * 10 ^ exponent)
      (scaleTen negative (value digits) exponent digits.length) := by
  have unit : (0 : ℚ) < 10 ^ exponent := zpow_pos (by norm_num) _
  rw [value_eq_positional]
  unfold scaleTen
  split
  · rename_i zero
    rw [zero, Nat.cast_zero, zero_mul]
    exact Binary64.nearest_zero negative le_rfl (Binary64.two_zpow_pos _).le
  · rename_i some
    split
    · rename_i large
      have least : (10 : ℚ) ^ digits.length ≤ 10 * positional digits := by
        have filled : digits.headD 0 ≠ 0 := by
          cases digits with
          | nil => exact absurd rfl some
          | cons digit others => exact first digit rfl
        exact_mod_cast le_positional filled
      have reached : (10 : ℚ) ^ (311 : ℤ) ≤ 10 * (positional digits * 10 ^ exponent) :=
        calc (10 : ℚ) ^ (311 : ℤ) ≤ 10 ^ (exponent + digits.length) :=
              zpow_le_zpow_right₀ (by norm_num) large
          _ = 10 ^ digits.length * 10 ^ exponent := (Binary64.pow_mul_zpow (by norm_num) _ _).symm
          _ ≤ 10 * positional digits * 10 ^ exponent := mul_le_mul_of_nonneg_right least unit.le
          _ = 10 * (positional digits * 10 ^ exponent) := mul_assoc _ _ _
      have bound := ten_pow_large.trans reached
      exact Binary64.nearest_infinite negative (le_of_mul_le_mul_left bound (by norm_num))
    · split
      · rename_i tiny
        have most : (positional digits : ℚ) ≤ 10 ^ digits.length := by
          exact_mod_cast (positional_lt small).le
        refine Binary64.nearest_zero negative (by positivity) (le_trans ?_ ten_pow_tiny)
        calc (positional digits : ℚ) * 10 ^ exponent ≤ 10 ^ digits.length * 10 ^ exponent :=
              mul_le_mul_of_nonneg_right most unit.le
          _ = 10 ^ (exponent + digits.length) := Binary64.pow_mul_zpow (by norm_num) _ _
          _ ≤ 10 ^ (-331 : ℤ) := zpow_le_zpow_right₀ (by norm_num) (by omega)
      · split
        · rename_i up
          obtain ⟨steps, rfl⟩ := Int.eq_ofNat_of_zero_le up
          have number : (positional digits : ℚ) * 10 ^ (steps : ℤ) =
              (positional digits * Nat.pow 10 steps : ℕ) / (1 : ℕ) := by
            rw [zpow_natCast, Nat.pow_eq]
            push_cast
            rw [div_one]
          rw [number, Int.toNat_natCast]
          exact Binary64.nearest_ofRatio negative (by decide)
        · rename_i down
          obtain ⟨steps, rfl⟩ : ∃ steps : ℕ, exponent = -(steps : ℤ) :=
            ⟨(-exponent).toNat, by omega⟩
          have number : (positional digits : ℚ) * 10 ^ (-(steps : ℤ)) =
              positional digits / (Nat.pow 10 steps : ℕ) := by
            rw [zpow_neg, zpow_natCast, ← div_eq_mul_inv, Nat.pow_eq]
            push_cast
            rfl
          rw [number, neg_neg, Int.toNat_natCast]
          exact Binary64.nearest_ofRatio negative (Nat.pow_pos (by decide))

end Scale

/-- The digits of a number before and after its point. There is no point without a digit. -/
inductive Mantissa : List ℕ → List ℕ → List Char → Prop where
  | whole {digits : List ℕ} {text : List Char} (run : DigitRun digits text) :
      Mantissa digits [] text
  | closed {digits : List ℕ} {text : List Char} (run : DigitRun digits text) :
      Mantissa digits [] (text ++ ['.'])
  | opened {part : List ℕ} {text : List Char} (run : DigitRun part text) :
      Mantissa [] part ('.' :: text)
  | pointed {digits part : List ℕ} {text text' : List Char} (run : DigitRun digits text)
      (run' : DigitRun part text') : Mantissa digits part (text ++ '.' :: text')

/-- The power of ten behind a number, which may be missing. -/
inductive Power : ℤ → List Char → Prop where
  | missing : Power 0 []
  | written {letter : Char} {negative : Bool} {digits : List ℕ} {text : List Char}
      (letters : letter = 'e' ∨ letter = 'E') (run : SignedRun negative digits text) :
      Power (signed negative (positional digits)) (letter :: text)

/-- What stands behind the sign of a double: a word, or a decimal number that the double is nearest
to. -/
inductive Unsigned (negative : Bool) : Binary64 → List Char → Prop where
  | infinite {text : List Char} (word : Anycase ['i', 'n', 'f'] text ∨
      Anycase ['i', 'n', 'f', 'i', 'n', 'i', 't', 'y'] text) :
      Unsigned negative (.infinite negative) text
  | nan {text : List Char} (word : Anycase ['n', 'a', 'n'] text) : Unsigned negative .nan text
  | decimal {whole part : List ℕ} {exponent : ℤ} {text text' : List Char} {double : Binary64}
      (mantissa : Mantissa whole part text) (power : Power exponent text')
      (nearest : double.Nearest negative
        (positional (whole ++ part) * 10 ^ (exponent - part.length))) :
      Unsigned negative double (text ++ text')

/-- A text spells a double, with blanks around it or not. -/
def SpellsDouble (double : Binary64) (text : List Char) : Prop :=
  ∃ negative mark unsigned, Padded (mark ++ unsigned) text ∧ Sign negative mark ∧
    Unsigned negative double unsigned

section Words

variable {word text : List Char}

theorem asciiLower_toNat (char : Char) : (asciiLower char).toNat =
    if 65 ≤ char.toNat ∧ char.toNat ≤ 90 then char.toNat + 32 else char.toNat := by
  have range : ('A' ≤ char ∧ char ≤ 'Z') ↔ 65 ≤ char.toNat ∧ char.toNat ≤ 90 := Iff.rfl
  unfold asciiLower
  simp only [range]
  split
  · rename_i capital
    have valid : (char.toNat + 32).isValidChar := .inl (by omega)
    rw [Char.ofNat, dif_pos valid]
    rfl
  · rfl

theorem asciiLower_eq_iff {char letter : Char} (small : letter.isLower = true) :
    asciiLower char = letter ↔ char = letter ∨ char = letter.toUpper := by
  have small' : 97 ≤ letter.toNat ∧ letter.toNat ≤ 122 := by
    obtain ⟨low, high⟩ := Bool.and_eq_true_iff.1 small
    exact ⟨of_decide_eq_true low, of_decide_eq_true high⟩
  rw [← Char.toNat_inj, ← Char.toNat_inj, ← Char.toNat_inj, asciiLower_toNat, Text.toUpper_toNat,
    if_pos small']
  split <;> omega

theorem map_asciiLower_eq_iff (small : word.all Char.isLower = true) :
    text.map asciiLower = word ↔ Anycase word text := by
  unfold Anycase
  rw [List.all_eq_true] at small
  induction word generalizing text with
  | nil => rw [List.map_eq_nil_iff, List.forall₂_nil_right_iff]
  | cons letter word ih =>
      obtain ⟨small', rest⟩ := List.forall_mem_cons.1 small
      rw [List.map_eq_cons_iff, List.forall₂_cons_right_iff]
      constructor
      · rintro ⟨char, after, rfl, same, others⟩
        exact ⟨char, after, (asciiLower_eq_iff small').1 same, (ih rest).1 others, rfl⟩
      · rintro ⟨char, after, same, others, rfl⟩
        exact ⟨char, after, rfl, (asciiLower_eq_iff small').2 same, (ih rest).2 others⟩

theorem Anycase.kept (written : Anycase word text)
    (kept : word.all (fun letter =>
      !Text.isNumberBlank letter && !Text.isNumberBlank letter.toUpper) = true) :
    ∀ char ∈ text, Text.isNumberBlank char = false := by
  simp only [List.all_eq_true, Bool.and_eq_true, Bool.not_eq_true'] at kept
  exact written.forall_mem kept

end Words

section Parts

variable {negative : Bool} {whole part : List ℕ} {text rest after : List Char}

theorem Mantissa.lt (mantissa : Mantissa whole part text) :
    ∀ digit ∈ whole ++ part, digit < 10 := by
  cases mantissa with
  | whole run | closed run => simpa using run.lt
  | opened run => simpa using run.lt
  | pointed run run' => exact List.forall_mem_append.2 ⟨run.lt, run'.lt⟩

theorem Mantissa.ne_nil (mantissa : Mantissa whole part text) : whole ++ part ≠ [] := by
  cases mantissa with
  | whole run | closed run | pointed run run' =>
      obtain ⟨_, _, _, _, _, rfl, _⟩ := run.exists_cons
      exact List.cons_ne_nil _ _
  | opened run =>
      obtain ⟨_, _, _, _, _, rfl, _⟩ := run.exists_cons
      exact List.cons_ne_nil _ _

theorem Mantissa.kept (mantissa : Mantissa whole part text) :
    ∀ char ∈ text, Text.isNumberBlank char = false := by
  have point : Text.isNumberBlank '.' = false := by decide
  cases mantissa with
  | whole run => exact run.kept
  | closed run => exact List.forall_mem_append.2 ⟨run.kept, List.forall_mem_singleton.2 point⟩
  | opened run => exact List.forall_mem_cons.2 ⟨point, run.kept⟩
  | pointed run run' =>
      exact List.forall_mem_append.2 ⟨run.kept, List.forall_mem_cons.2 ⟨point, run'.kept⟩⟩

theorem Power.kept {exponent : ℤ} (power : Power exponent text) :
    ∀ char ∈ text, Text.isNumberBlank char = false := by
  cases power with
  | missing => exact List.forall_mem_nil _
  | written letters run =>
      refine List.forall_mem_cons.2 ⟨?_, run.kept⟩
      rcases letters with rfl | rfl <;> decide

/-- What follows a mantissa continues no digits and has no point. -/
theorem Power.stops {exponent : ℤ} (power : Power exponent text) :
    Stops text ∧ ∀ char ∈ text.head?, char ≠ '.' := by
  cases power with
  | missing => exact ⟨stops_nil, by simp⟩
  | written letters run =>
      rcases letters with rfl | rfl <;> simp [Stops] <;> decide

theorem exponent?_eq_some_iff {exponent : ℤ} :
    exponent? text = some exponent ↔ Power exponent text := by
  constructor
  · intro read
    unfold exponent? at read
    split at read
    · obtain rfl := Option.some.inj read
      exact .missing
    · rename_i letter rest
      split at read
      · rename_i letters
        dsimp only at read
        split at read
        · rename_i first others reading
          have run : SignedRun (Literal.sign rest).1 (first :: others) rest :=
            signedRun_iff.2 ⟨rfl, reading, List.cons_ne_nil _ _⟩
          rw [value_eq_positional, Option.some.injEq] at read
          rw [← read]
          exact .written letters run
        · cases read
      · cases read
  · intro power
    cases power with
    | missing => rfl
    | written letters run =>
        obtain ⟨rfl, read, nonempty⟩ := signedRun_iff.1 run
        obtain ⟨first, others, rfl⟩ := List.exists_cons_of_ne_nil nonempty
        rw [exponent?, if_pos letters]
        dsimp only
        rw [read]
        dsimp only
        rw [value_eq_positional]
        rfl

/-- What is read before and behind a point. -/
theorem mantissa_append (mantissa : Mantissa whole part text)
    (stops : Stops rest ∧ ∀ char ∈ rest.head?, char ≠ '.') :
    ∃ after point, Literal.digits (text ++ rest) = (whole, after) ∧
      fraction after = (point, part, rest) := by
  have dot (rest : List Char) : Stops ('.' :: rest) := by
    intro char first
    obtain rfl : '.' = char := Option.some.inj first
    decide
  cases mantissa with
  | whole run =>
      refine ⟨rest, false, digits_append run stops.1, ?_⟩
      fun_cases fraction rest with
      | case1 rest => exact absurd rfl (stops.2 '.' rfl)
      | case2 => rfl
  | closed run =>
      refine ⟨'.' :: rest, true, ?_, ?_⟩
      · rw [List.append_assoc]
        exact digits_append run (dot rest)
      · rw [fraction, digits_of_stops stops.1]
  | opened run =>
      refine ⟨'.' :: (_ ++ rest), true, digits_of_stops (dot _), ?_⟩
      rw [fraction, digits_append run stops.1]
  | @pointed _ _ front behind run run' =>
      refine ⟨'.' :: (behind ++ rest), true, ?_, ?_⟩
      · rw [List.append_assoc]
        exact digits_append run (dot _)
      · rw [fraction, digits_append run' stops.1]

theorem exists_mantissa {point : Bool} (read : Literal.digits text = (whole, after))
    (read' : fraction after = (point, part, rest)) (some : whole ++ part ≠ []) :
    ∃ mantissa, text = mantissa ++ rest ∧ Mantissa whole part mantissa := by
  unfold fraction at read'
  split at read'
  · rename_i behind
    obtain ⟨_, same⟩ := Prod.mk.inj read'
    rcases exists_digitRun read with ⟨rfl, rfl⟩ | ⟨front, rfl, run⟩
    · rcases exists_digitRun same with ⟨rfl, _⟩ | ⟨behind', rfl, run'⟩
      · exact absurd rfl some
      · exact ⟨_, rfl, .opened run'⟩
    · rcases exists_digitRun same with ⟨rfl, rfl⟩ | ⟨behind', rfl, run'⟩
      · exact ⟨_, (List.append_assoc front ['.'] _).symm, .closed run⟩
      · exact ⟨_, (List.append_assoc front ('.' :: behind') _).symm, .pointed run run'⟩
  · obtain ⟨_, same⟩ := Prod.mk.inj read'
    obtain ⟨rfl, rfl⟩ := Prod.mk.inj same
    rcases exists_digitRun read with ⟨rfl, _⟩ | ⟨front, rfl, run⟩
    · exact absurd rfl some
    · exact ⟨front, rfl, .whole run⟩

/-- The value of digits with a power of ten behind them, where zeros in front do not count. -/
theorem nearest_significant {digits : List ℕ} (small : ∀ digit ∈ digits, digit < 10)
    (exponent : ℤ) :
    Binary64.Nearest negative (positional digits * 10 ^ exponent)
      (scaleTen negative (value (digits.dropWhile (· == 0))) exponent
        (digits.dropWhile (· == 0)).length) := by
  rw [← positional_dropWhile]
  apply nearest_scaleTen
  · intro digit inside
    exact small digit ((List.dropWhile_sublist _).subset inside)
  · intro digit first zero
    have kept := List.head?_dropWhile_not (· == 0) digits
    rw [Option.mem_def.1 first] at kept
    simp [zero] at kept

/-- A decimal number is read where the grammar spells one, and it is the nearest double. -/
theorem decimal?_eq_some_iff {double : Binary64} :
    decimal? negative text = some double ↔
      ∃ (whole part : List ℕ) (exponent : ℤ) (mantissa power : List Char),
        text = mantissa ++ power ∧ Mantissa whole part mantissa ∧ Power exponent power ∧
          double.Nearest negative
            (positional (whole ++ part) * 10 ^ (exponent - part.length)) := by
  constructor
  · intro read
    unfold decimal? at read
    generalize reading : Literal.digits text = parts at read
    obtain ⟨whole, after⟩ := parts
    dsimp only at read
    generalize reading' : fraction after = parts at read
    obtain ⟨point, part, rest⟩ := parts
    dsimp only at read
    split at read
    · cases read
    · rename_i some
      rw [List.isEmpty_iff] at some
      obtain ⟨exponent, power, rfl⟩ := Option.map_eq_some_iff.1 read
      obtain ⟨mantissa, same, shape⟩ := exists_mantissa reading reading' some
      exact ⟨whole, part, exponent, mantissa, rest, same, shape, exponent?_eq_some_iff.1 power,
        nearest_significant shape.lt _⟩
  · rintro ⟨whole, part, exponent, mantissa, power, rfl, shape, power', nearest⟩
    obtain ⟨after, point, reading, reading'⟩ := mantissa_append shape power'.stops
    unfold decimal?
    rw [reading]
    dsimp only
    rw [reading']
    dsimp only
    have nonempty : whole ++ part ≠ [] := shape.ne_nil
    rw [if_neg (by rwa [List.isEmpty_iff]), exponent?_eq_some_iff.2 power', Option.map_some]
    exact congrArg some ((nearest_significant shape.lt _).unique nearest)

end Parts

section Doubles

variable {negative : Bool} {double : Binary64} {text : List Char}

theorem Unsigned.kept (unsigned : Unsigned negative double text) :
    ∀ char ∈ text, Text.isNumberBlank char = false := by
  cases unsigned with
  | infinite word =>
      rcases word with short | long
      · exact short.kept (by decide)
      · exact long.kept (by decide)
  | nan word => exact word.kept (by decide)
  | decimal mantissa power nearest => exact List.forall_mem_append.2 ⟨mantissa.kept, power.kept⟩

/-- A mantissa starts with a digit or a point. -/
theorem Mantissa.exists_cons {whole part : List ℕ} (mantissa : Mantissa whole part text) :
    ∃ char after, text = char :: after ∧
      ((∃ digit, Text.digit? char = some digit) ∨ char = '.') := by
  cases mantissa with
  | opened run => exact ⟨_, _, rfl, .inr rfl⟩
  | whole run | closed run | pointed run run' =>
      obtain ⟨_, digit, _, _, rfl, _, reads⟩ := run.exists_cons
      exact ⟨_, _, rfl, .inl ⟨digit, reads⟩⟩

/-- No decimal number is a word. -/
theorem Mantissa.not_anycase {whole part : List ℕ} {letter : Char} {word : List Char}
    (mantissa : Mantissa whole part text) (rest : List Char)
    (small : Text.digit? letter = none ∧ letter ≠ '.')
    (capital : Text.digit? letter.toUpper = none ∧ letter.toUpper ≠ '.') :
    ¬ Anycase (letter :: word) (text ++ rest) := by
  intro written
  obtain ⟨char, after, rfl, start⟩ := mantissa.exists_cons
  obtain ⟨char', after', same, written'⟩ := written.exists_cons
  obtain rfl : char = char' := (List.cons.inj same).1
  have free : Text.digit? char = none ∧ char ≠ '.' := by
    rcases written' with rfl | rfl
    · exact small
    · exact capital
  rcases start with ⟨digit, reads⟩ | dot
  · rw [free.1] at reads
    cases reads
  · exact free.2 dot

/-- Behind a sign there is no other sign. -/
theorem Unsigned.head (unsigned : Unsigned negative double text) :
    ∀ char ∈ text.head?, char ≠ '-' ∧ char ≠ '+' := by
  have initial {letter : Char} {word : List Char} (written : Anycase (letter :: word) text)
      (small : letter ≠ '-' ∧ letter ≠ '+')
      (capital : letter.toUpper ≠ '-' ∧ letter.toUpper ≠ '+') :
      ∀ char ∈ text.head?, char ≠ '-' ∧ char ≠ '+' := by
    obtain ⟨char, after, rfl, written'⟩ := written.exists_cons
    intro other first
    obtain rfl : char = other := Option.some.inj first
    rcases written' with rfl | rfl
    · exact small
    · exact capital
  cases unsigned with
  | infinite word =>
      rcases word with short | long
      · exact initial short (by decide) (by decide)
      · exact initial long (by decide) (by decide)
  | nan word => exact initial word (by decide) (by decide)
  | decimal mantissa power nearest =>
      obtain ⟨char, after, rfl, start⟩ := mantissa.exists_cons
      intro other first
      obtain rfl : char = other := Option.some.inj first
      rcases start with ⟨digit, reads⟩ | rfl
      · exact ⟨Text.ne_of_digit? reads (by decide), Text.ne_of_digit? reads (by decide)⟩
      · decide

/-- A double is read where the grammar spells one. -/
theorem double?_eq_some_iff : double? text = some double ↔ SpellsDouble double text := by
  constructor
  · intro read
    obtain ⟨mark, sign, whole⟩ := exists_sign (Text.trim Text.isNumberBlank text)
    have padded := padded_trim text
    rw [whole] at padded
    refine ⟨_, mark, _, padded, sign, ?_⟩
    unfold double? at read
    generalize Literal.sign (Text.trim Text.isNumberBlank text) = parts at read ⊢
    obtain ⟨negative, unsigned⟩ := parts
    dsimp only at read ⊢
    split at read
    · rename_i word
      obtain rfl := Option.some.inj read
      exact .infinite (word.imp (map_asciiLower_eq_iff (by decide)).1
        (map_asciiLower_eq_iff (by decide)).1)
    · split at read
      · rename_i word
        obtain rfl := Option.some.inj read
        exact .nan ((map_asciiLower_eq_iff (by decide)).1 word)
      · obtain ⟨_, _, _, _, _, rfl, mantissa, power, nearest⟩ := decimal?_eq_some_iff.1 read
        exact .decimal mantissa power nearest
  · rintro ⟨negative, mark, unsigned, padded, sign, body⟩
    have kept := List.forall_mem_append.2 ⟨sign.kept, body.kept⟩
    unfold double?
    rw [padded.trim_eq kept, sign_append sign body.head]
    dsimp only
    cases body with
    | infinite word =>
        rw [if_pos]
        exact word.imp (map_asciiLower_eq_iff (by decide)).2 (map_asciiLower_eq_iff (by decide)).2
    | nan word =>
        rw [(map_asciiLower_eq_iff (by decide)).2 word, if_neg (by decide), if_pos rfl]
    | @decimal _ _ _ text text' _ mantissa power nearest =>
        have no_word {letter : Char} {word : List Char}
            (lower : (letter :: word).all Char.isLower = true)
            (small : Text.digit? letter = none ∧ letter ≠ '.')
            (capital : Text.digit? letter.toUpper = none ∧ letter.toUpper ≠ '.') :
            (text ++ text').map asciiLower ≠ letter :: word := fun same =>
          mantissa.not_anycase text' small capital ((map_asciiLower_eq_iff lower).1 same)
        have no_infinity : ¬ ((text ++ text').map asciiLower = ['i', 'n', 'f'] ∨
            (text ++ text').map asciiLower = ['i', 'n', 'f', 'i', 'n', 'i', 't', 'y']) :=
          not_or.2 ⟨no_word (by decide) (by decide) (by decide),
            no_word (by decide) (by decide) (by decide)⟩
        have no_nan : (text ++ text').map asciiLower ≠ ['n', 'a', 'n'] :=
          no_word (by decide) (by decide) (by decide)
        rw [if_neg no_infinity, if_neg no_nan]
        exact decimal?_eq_some_iff.2 ⟨_, _, _, _, _, rfl, mantissa, power, nearest⟩

example : double? ['-', '1', 'e', '-', '4', '0', '0'] = some (.zero true) := by decide

theorem double?_eq_none_iff : double? text = none ↔ ∀ double, ¬ SpellsDouble double text := by
  rw [Option.eq_none_iff_forall_ne_some]
  exact forall_congr' fun double => not_congr double?_eq_some_iff

end Doubles

end CommandShell.Literal
