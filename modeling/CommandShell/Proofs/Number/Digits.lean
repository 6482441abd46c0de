import CommandShell.Number.Literal
import CommandShell.Proofs.Text.Words
import Mathlib.Data.Nat.Digits.Lemmas

/-!
Runs of decimal digits and their values, and the grammar of integers. `digits_append` and
`exists_digitRun` say that a run is what the reader of digits takes from a text, and
`integer?_eq_some_iff` that it reads an integer where the grammar spells one.
-/

namespace CommandShell.Text

section Digit

variable {char other : Char} {digit : ℕ}

theorem exists_zero_of_digit? (reads : digit? char = some digit) :
    ∃ first ∈ zeros, first ≤ char.toNat ∧ char.toNat < first + 10 ∧
      char.toNat - first = digit := by
  obtain ⟨first, found, value⟩ := Option.map_eq_some_iff.1 reads
  have within := List.find?_some found
  obtain ⟨above, below⟩ := of_decide_eq_true within
  exact ⟨first, List.mem_of_find?_eq_some found, above, below, value⟩

theorem digit?_lt (reads : digit? char = some digit) : digit < 10 := by
  obtain ⟨first, _, above, below, value⟩ := exists_zero_of_digit? reads
  omega

theorem ne_of_digit? (reads : digit? char = some digit) (none : digit? other = none) :
    char ≠ other := by
  intro same
  rw [same, none] at reads
  cases reads

theorem zeros_not_blank :
    ∀ first ∈ zeros, ∀ range ∈ blanks, range.2 < first ∨ first + 9 < range.1 := by decide

theorem isNumberBlank_of_digit? (reads : digit? char = some digit) :
    isNumberBlank char = false := by
  obtain ⟨first, listed, above, below, _⟩ := exists_zero_of_digit? reads
  have free : covers blanks char.toNat = false := by
    rw [covers, List.any_eq_false]
    intro range blank
    have apart := zeros_not_blank first listed range blank
    rw [decide_eq_true_eq]
    omega
  rw [isNumberBlank, isBlank, free, Bool.false_and]

end Digit

/-- Nothing is taken away from a text without characters to drop. -/
theorem Trimmed.of_forall {drop : Char → Bool} {text : List Char}
    (kept : ∀ char ∈ text, drop char = false) : Trimmed drop text :=
  ⟨fun char first => kept char (List.mem_of_mem_head? first),
    fun char last => kept char (List.mem_of_mem_getLast? last)⟩

end CommandShell.Text

namespace CommandShell.Literal

/-- Digits in a row, with at most one underscore between two of them. -/
inductive DigitRun : List ℕ → List Char → Prop where
  | last {char : Char} {digit : ℕ} (reads : Text.digit? char = some digit) :
      DigitRun [digit] [char]
  | next {char : Char} {digit : ℕ} {digits : List ℕ} {text : List Char}
      (reads : Text.digit? char = some digit) (run : DigitRun digits text) :
      DigitRun (digit :: digits) (char :: text)
  | spaced {char : Char} {digit : ℕ} {digits : List ℕ} {text : List Char}
      (reads : Text.digit? char = some digit) (run : DigitRun digits text) :
      DigitRun (digit :: digits) (char :: '_' :: text)

/-- A text that continues no run of digits. -/
def Stops (text : List Char) : Prop := ∀ char ∈ text.head?, Text.digit? char = none ∧ char ≠ '_'

section Runs

variable {digits : List ℕ} {text rest : List Char}

theorem DigitRun.lt (run : DigitRun digits text) : ∀ digit ∈ digits, digit < 10 := by
  induction run with
  | last reads =>
      intro digit inside
      rw [List.mem_singleton.1 inside]
      exact Text.digit?_lt reads
  | next reads _ ih | spaced reads _ ih =>
      intro digit inside
      rcases List.mem_cons.1 inside with rfl | later
      · exact Text.digit?_lt reads
      · exact ih digit later

theorem DigitRun.kept (run : DigitRun digits text) :
    ∀ char ∈ text, Text.isNumberBlank char = false := by
  induction run with
  | last reads =>
      intro char inside
      rw [List.mem_singleton.1 inside]
      exact Text.isNumberBlank_of_digit? reads
  | next reads _ ih =>
      intro char inside
      rcases List.mem_cons.1 inside with rfl | later
      · exact Text.isNumberBlank_of_digit? reads
      · exact ih char later
  | spaced reads _ ih =>
      intro char inside
      rcases List.mem_cons.1 inside with rfl | later
      · exact Text.isNumberBlank_of_digit? reads
      · rcases List.mem_cons.1 later with rfl | later'
        · decide
        · exact ih char later'

theorem DigitRun.exists_cons (run : DigitRun digits text) :
    ∃ char digit others after, text = char :: after ∧ digits = digit :: others ∧
      Text.digit? char = some digit := by
  cases run with
  | last reads => exact ⟨_, _, _, _, rfl, rfl, reads⟩
  | next reads run => exact ⟨_, _, _, _, rfl, rfl, reads⟩
  | spaced reads run => exact ⟨_, _, _, _, rfl, rfl, reads⟩

theorem stops_nil : Stops [] := by simp [Stops]

theorem moreDigits_cons {char : Char} {digit : ℕ} (reads : Text.digit? char = some digit)
    (rest : List Char) :
    moreDigits (char :: rest) = (digit :: (moreDigits rest).1, (moreDigits rest).2) := by
  have mark : char ≠ '_' := Text.ne_of_digit? reads (by decide)
  rw [moreDigits.eq_def]
  split
  · rename_i other after same
    exact absurd (List.cons.inj same).1 mark
  · rename_i other after _ same
    obtain ⟨rfl, rfl⟩ := List.cons.inj same
    rw [reads]
  · rename_i same
    cases same

theorem moreDigits_underscore {char : Char} {digit : ℕ} (reads : Text.digit? char = some digit)
    (rest : List Char) : moreDigits ('_' :: char :: rest) = moreDigits (char :: rest) := by
  rw [moreDigits_cons reads, moreDigits, reads]

theorem moreDigits_of_stops (stops : Stops rest) : moreDigits rest = ([], rest) := by
  cases rest with
  | nil => rfl
  | cons char after =>
      obtain ⟨none, mark⟩ := stops char rfl
      rw [moreDigits.eq_def]
      split
      · rename_i other after' same
        exact absurd (List.cons.inj same).1 mark
      · rename_i other after' _ same
        obtain ⟨rfl, rfl⟩ := List.cons.inj same
        rw [none]
      · rename_i same
        cases same

theorem moreDigits_append (run : DigitRun digits text) (stops : Stops rest) :
    moreDigits (text ++ rest) = (digits, rest) := by
  induction run with
  | last reads =>
      rw [List.singleton_append, moreDigits_cons reads, moreDigits_of_stops stops]
  | next reads _ ih => rw [List.cons_append, moreDigits_cons reads, ih]
  | spaced reads run ih =>
      obtain ⟨char, digit, others, after, rfl, _, reads'⟩ := run.exists_cons
      rw [List.cons_append, List.cons_append, moreDigits_cons reads, List.cons_append,
        moreDigits_underscore reads', ← List.cons_append, ih]

/-- All of a run is read, up to a text that continues none. -/
theorem digits_append (run : DigitRun digits text) (stops : Stops rest) :
    Literal.digits (text ++ rest) = (digits, rest) := by
  rw [← moreDigits_append run stops]
  obtain ⟨char, digit, others, after, rfl, _, reads⟩ := run.exists_cons
  rw [List.cons_append, moreDigits_cons reads, Literal.digits, reads]

theorem digits_of_stops (stops : Stops rest) : Literal.digits rest = ([], rest) := by
  cases rest with
  | nil => rfl
  | cons char after => rw [Literal.digits, (stops char rfl).1]

/-- What is read behind a digit makes a run with it. -/
theorem exists_moreDigits (text : List Char) :
    ∃ part, text = part ++ (moreDigits text).2 ∧ ∀ char digit, Text.digit? char = some digit →
      DigitRun (digit :: (moreDigits text).1) (char :: part) := by
  fun_induction moreDigits text with
  | case1 char rest digit reads ih =>
      obtain ⟨part, whole, runs⟩ := ih
      refine ⟨'_' :: char :: part, ?_, fun _ _ reads' => .spaced reads' (runs char digit reads)⟩
      rw [List.cons_append, List.cons_append, ← whole]
  | case3 char rest _ digit reads ih =>
      obtain ⟨part, whole, runs⟩ := ih
      refine ⟨char :: part, ?_, fun _ _ reads' => .next reads' (runs char digit reads)⟩
      rw [List.cons_append, ← whole]
  | case2 | case4 | case5 => exact ⟨[], rfl, fun _ _ reads' => .last reads'⟩

/-- What is read is a run, or nothing is. -/
theorem exists_digitRun (read : Literal.digits text = (digits, rest)) :
    (digits = [] ∧ rest = text) ∨ ∃ part, text = part ++ rest ∧ DigitRun digits part := by
  cases text with
  | nil =>
      obtain ⟨rfl, rfl⟩ := Prod.mk.inj read
      exact .inl ⟨rfl, rfl⟩
  | cons char after =>
      rw [Literal.digits] at read
      split at read
      · rename_i digit reads
        obtain ⟨rfl, rfl⟩ := Prod.mk.inj read
        obtain ⟨part, whole, runs⟩ := exists_moreDigits after
        exact .inr ⟨char :: part, by rw [List.cons_append, ← whole], runs char digit reads⟩
      · obtain ⟨rfl, rfl⟩ := Prod.mk.inj read
        exact .inl ⟨rfl, rfl⟩

theorem digitRun_of_digits {first : ℕ} (read : Literal.digits text = (first :: digits, rest)) :
    ∃ part, text = part ++ rest ∧ DigitRun (first :: digits) part :=
  (exists_digitRun read).resolve_left fun nothing => List.cons_ne_nil _ _ nothing.1

end Runs

section Value

variable {digits : List ℕ}

/-- The value of digits by their places. -/
def positional (digits : List ℕ) : ℕ := Nat.ofDigits 10 digits.reverse

theorem value_eq_positional (digits : List ℕ) : value digits = positional digits := by
  rw [positional, Nat.ofDigits_eq_foldr, List.foldr_reverse]
  unfold value
  congr 1
  funext number digit
  exact Nat.add_comm _ _

theorem positional_lt (small : ∀ digit ∈ digits, digit < 10) :
    positional digits < 10 ^ digits.length := by
  rw [← List.length_reverse]
  exact Nat.ofDigits_lt_base_pow_length (by decide) (by simpa using small)

theorem le_positional (first : digits.headD 0 ≠ 0) :
    10 ^ digits.length ≤ 10 * positional digits := by
  cases digits with
  | nil => exact absurd rfl first
  | cons digit others =>
      rw [← List.length_reverse]
      apply Nat.pow_length_le_mul_ofDigits (b := 8) (by simp)
      simpa using first

/-- Zeros in front do not count. -/
theorem positional_dropWhile (digits : List ℕ) :
    positional (digits.dropWhile (· == 0)) = positional digits := by
  induction digits with
  | nil => rfl
  | cons digit others ih =>
      rw [List.dropWhile_cons]
      split
      · rename_i zero
        rw [ih, beq_iff_eq.1 zero, positional, positional, List.reverse_cons, Nat.ofDigits_append]
        simp
      · rfl

end Value

/-- A sign, which may be missing, and true for minus. -/
inductive Sign : Bool → List Char → Prop where
  | missing : Sign false []
  | plus : Sign false ['+']
  | minus : Sign true ['-']

/-- A number with its sign. -/
def signed (negative : Bool) (number : ℕ) : ℤ := if negative then -number else number

/-- A text with nothing but blanks around its core. -/
inductive Padded (core : List Char) : List Char → Prop where
  | intro {left right : List Char} (left_blank : ∀ char ∈ left, Text.isNumberBlank char = true)
      (right_blank : ∀ char ∈ right, Text.isNumberBlank char = true) :
      Padded core (left ++ core ++ right)

/-- A run of digits behind a sign. -/
inductive SignedRun : Bool → List ℕ → List Char → Prop where
  | intro {negative : Bool} {digits : List ℕ} {mark text : List Char} (sign : Sign negative mark)
      (run : DigitRun digits text) : SignedRun negative digits (mark ++ text)

/-- An integer has at most 4300 digits. -/
inductive Integer : ℤ → List Char → Prop where
  | intro {negative : Bool} {digits : List ℕ} {text : List Char}
      (run : SignedRun negative digits text) (short : digits.length ≤ 4300) :
      Integer (signed negative (positional digits)) text

/-- A text spells an integer, with blanks around it or not. -/
def SpellsInteger (number : ℤ) (text : List Char) : Prop :=
  ∃ core, Padded core text ∧ Integer number core

section Integers

variable {negative : Bool} {digits : List ℕ} {mark text core : List Char}

theorem Sign.kept (sign : Sign negative mark) :
    ∀ char ∈ mark, Text.isNumberBlank char = false := by
  cases sign with
  | missing => exact List.forall_mem_nil _
  | plus | minus => exact List.forall_mem_singleton.2 (by decide)

theorem sign_append (sign : Sign negative mark)
    (unsigned : ∀ char ∈ text.head?, char ≠ '-' ∧ char ≠ '+') :
    Literal.sign (mark ++ text) = (negative, text) := by
  cases sign with
  | plus | minus => rfl
  | missing =>
      cases text with
      | nil => rfl
      | cons char rest =>
          obtain ⟨minus, plus⟩ := unsigned char rfl
          rw [List.nil_append, Literal.sign.eq_def]
          split
          · rename_i same
            exact absurd (List.cons.inj same).1 minus
          · rename_i same
            exact absurd (List.cons.inj same).1 plus
          · rfl

theorem exists_sign (text : List Char) :
    ∃ mark, Sign (Literal.sign text).1 mark ∧ text = mark ++ (Literal.sign text).2 := by
  fun_cases Literal.sign text with
  | case1 rest => exact ⟨_, .minus, rfl⟩
  | case2 rest => exact ⟨_, .plus, rfl⟩
  | case3 => exact ⟨_, .missing, rfl⟩

theorem DigitRun.unsigned (run : DigitRun digits text) (rest : List Char) :
    ∀ char ∈ (text ++ rest).head?, char ≠ '-' ∧ char ≠ '+' := by
  obtain ⟨char, digit, others, after, rfl, _, reads⟩ := run.exists_cons
  intro other first
  obtain rfl : char = other := Option.some.inj first
  exact ⟨Text.ne_of_digit? reads (by decide), Text.ne_of_digit? reads (by decide)⟩

theorem SignedRun.kept (run : SignedRun negative digits text) :
    ∀ char ∈ text, Text.isNumberBlank char = false := by
  cases run with
  | intro sign run => exact List.forall_mem_append.2 ⟨sign.kept, run.kept⟩

theorem signedRun_iff : SignedRun negative digits text ↔
    (Literal.sign text).1 = negative ∧ Literal.digits (Literal.sign text).2 = (digits, []) ∧
      digits ≠ [] := by
  constructor
  · intro run
    cases run with
    | intro sign run =>
        have unsigned := run.unsigned []
        have read := digits_append run stops_nil
        rw [List.append_nil] at unsigned read
        obtain ⟨_, _, _, _, _, rfl, _⟩ := run.exists_cons
        rw [sign_append sign unsigned]
        exact ⟨rfl, read, List.cons_ne_nil _ _⟩
  · rintro ⟨rfl, read, nonempty⟩
    obtain ⟨first, others, rfl⟩ := List.exists_cons_of_ne_nil nonempty
    obtain ⟨mark, sign, whole⟩ := exists_sign text
    obtain ⟨part, unsigned, run⟩ := digitRun_of_digits read
    have built := SignedRun.intro sign run
    rw [List.append_nil] at unsigned
    rwa [← unsigned, ← whole] at built

theorem Padded.trim_eq (padded : Padded core text)
    (kept : ∀ char ∈ core, Text.isNumberBlank char = false) :
    Text.trim Text.isNumberBlank text = core := by
  cases padded with
  | intro left_blank right_blank =>
      exact Text.trim_append_append left_blank right_blank (.of_forall kept)

theorem padded_trim (text : List Char) : Padded (Text.trim Text.isNumberBlank text) text := by
  obtain ⟨left, right, left_blank, right_blank, whole⟩ :=
    Text.exists_eq_append_trim Text.isNumberBlank text
  nth_rewrite 2 [whole]
  exact .intro left_blank right_blank

/-- An integer is read where the grammar spells one. -/
theorem integer?_eq_some_iff {number : ℤ} :
    integer? text = some number ↔ SpellsInteger number text := by
  constructor
  · intro read
    refine ⟨_, padded_trim text, ?_⟩
    unfold integer? at read
    generalize Text.trim Text.isNumberBlank text = core at read ⊢
    dsimp only at read
    split at read
    · cases read
    · rename_i first others reading
      have run : SignedRun (Literal.sign core).1 (first :: others) core :=
        signedRun_iff.2 ⟨rfl, reading, List.cons_ne_nil _ _⟩
      split at read
      · cases read
      · rename_i short
        rw [value_eq_positional, Option.some.injEq] at read
        rw [← read]
        exact .intro run (not_lt.1 short)
    · cases read
  · intro ⟨core, padded, integer⟩
    cases integer with
    | intro run short =>
        obtain ⟨rfl, read, nonempty⟩ := signedRun_iff.1 run
        obtain ⟨first, others, rfl⟩ := List.exists_cons_of_ne_nil nonempty
        unfold integer?
        rw [padded.trim_eq run.kept]
        dsimp only
        rw [read]
        dsimp only
        rw [if_neg (show ¬ digitLimit < _ from not_lt.2 short), value_eq_positional]
        rfl

example : integer? [' ', '-', '1', '_', '0', '٣', '\n'] = some (-103) := by decide

theorem integer?_eq_none_iff : integer? text = none ↔ ∀ number, ¬ SpellsInteger number text := by
  rw [Option.eq_none_iff_forall_ne_some]
  exact forall_congr' fun number => not_congr integer?_eq_some_iff

end Integers

end CommandShell.Literal
