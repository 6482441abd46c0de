import CommandShell.Host.Escape

/-!
Numbers as programs of the host read and write them: integers in three bases, and fractions rounded to
the bits that a machine keeps.
-/

namespace CommandShell.Host.Numeral

/-- Blanks that may stand before a number. -/
def isBlank (char : Char) : Bool := [' ', '\t', '\n', '\x0b', '\x0c', '\r'].contains char

/-- A number at the start of a text. Without a digit nothing is read. -/
structure Reading (Value : Type) where
  negative : Bool
  value : Value
  rest : Bytes
  found : Bool

/-- The sign at the start of a text, true for minus, and the rest. -/
def sign : Bytes → Bool × Bytes
  | '-' :: rest => (true, rest)
  | '+' :: rest => (false, rest)
  | text => (false, text)

/-- The integer at the start of a text. A first zero makes it octal, and an x after that makes it
hexadecimal, unless the base is given. -/
def integer (base? : Option Nat) (text : Bytes) : Reading Nat :=
  let (negative, unsigned) := sign (text.dropWhile isBlank)
  let inBase (base : Nat) (digits : Bytes) : Reading Nat :=
    match Escape.digits base digits.length 0 0 digits with
    | (0, _, _) => ⟨negative, 0, text, false⟩
    | (_, value, rest) => ⟨negative, value, rest, true⟩
  match base?, unsigned with
  | some base, _ => inBase base unsigned
  | none, '0' :: mark :: digit :: rest =>
      if (mark = 'x' ∨ mark = 'X') ∧ (Escape.digit? 16 digit).isSome then inBase 16 (digit :: rest)
      else inBase 8 unsigned
  | none, '0' :: _ => inBase 8 unsigned
  | none, _ => inBase 10 unsigned

/-- The greatest integer with a sign. -/
def greatest : Nat := Nat.pow 2 63 - 1

/-- The number of integers of a machine word. -/
def wordSize : Nat := Nat.pow 2 64

/-- An integer that is read, kept in the range of those with a sign, and whether it was in range. -/
def signed (reading : Reading Nat) : Int × Bool :=
  if reading.negative then
    if greatest + 1 < reading.value then (-(greatest + 1 : Int), false) else (-(reading.value : Int), true)
  else if greatest < reading.value then (greatest, false)
  else (reading.value, true)

/-- An integer that is read as a machine word without a sign, and whether it was in range. -/
def unsigned (reading : Reading Nat) : Nat × Bool :=
  if wordSize ≤ reading.value then (wordSize - 1, false)
  else if reading.negative then ((wordSize - reading.value) % wordSize, true)
  else (reading.value, true)

/-- An integer brought into the range of those with a sign by leaving whole words out. -/
def wrap (value : Int) : Int := Int.bmod value wordSize

/-- The size of a fraction, or what is no number. -/
inductive Magnitude where
  /-- A numerator and a denominator above zero. -/
  | ratio (numerator denominator : Nat)
  | infinite
  | undefined
  deriving DecidableEq, Repr

/-- A quotient rounded to the nearest integer, a half to the even neighbour. -/
def roundedQuotient (numerator denominator : Nat) : Nat :=
  let whole := numerator / denominator
  let twice := 2 * (numerator % denominator)
  if denominator < twice ∨ (twice = denominator ∧ whole % 2 = 1) then whole + 1 else whole

/-- A fraction rounded to a number of bits. -/
def roundBits (bits numerator denominator : Nat) : Nat × Nat :=
  if numerator = 0 then (0, 1)
  else
    let guess : Int := Nat.log2 numerator - Nat.log2 denominator
    let scaled (shift : Int) : Nat × Nat :=
      if 0 ≤ shift then (numerator * Nat.pow 2 shift.toNat, denominator) else (numerator, denominator * Nat.pow 2 (-shift).toNat)
    let shift : Int :=
      let first := bits - guess - 1
      let (numerator, denominator) := scaled first
      if numerator / denominator < Nat.pow 2 (bits - 1) then first + 1 else first
    let (numerator, denominator) := scaled shift
    let kept := roundedQuotient numerator denominator
    if 0 ≤ shift then (kept, Nat.pow 2 shift.toNat) else (kept * Nat.pow 2 (-shift).toNat, 1)

/-- The fractions that a machine can keep: how many bits they have, the power of two that they stay below, the
one from which on they keep all their bits, and the one of their last bit, the last two without a sign. -/
structure Precision where
  bits : Nat
  most : Nat
  full : Nat
  least : Nat
  deriving DecidableEq, Repr

/-- The fraction that a machine keeps for a number, and whether the number is in its range. -/
def Precision.keep (precision : Precision) : Magnitude → Magnitude × Bool
  | .ratio numerator denominator =>
      let (kept, scale) := roundBits precision.bits numerator denominator
      if numerator = 0 then (.ratio 0 1, true)
      else if scale * Nat.pow 2 precision.most ≤ kept then (.infinite, false)
      else if kept * Nat.pow 2 precision.full < scale then
        let scaled := numerator * Nat.pow 2 precision.least
        (.ratio (roundedQuotient scaled denominator) (Nat.pow 2 precision.least), scaled % denominator == 0)
      else (.ratio kept scale, true)
  | value => (value, true)

/-- Exponents beyond this, from a text, stand for this one. The number is out of range either way. -/
def exponentLimit : Int := 5000

/-- The number with digits and a power of ten. -/
def scaleTen (digits : Nat) (exponent : Int) : Magnitude :=
  let limit := exponentLimit + Nat.log2 digits
  let exponent := max (-limit) (min limit exponent)
  if 0 ≤ exponent then .ratio (digits * Nat.pow 10 exponent.toNat) 1
  else .ratio digits (Nat.pow 10 (-exponent).toNat)

/-- The exponent after a letter at the start of a text; without digits there is none. -/
def exponent (letter : Char) (text : Bytes) : Int × Bytes :=
  match text with
  | mark :: rest =>
      if mark.toLower = letter then
        let (negative, digits) := sign rest
        match Escape.digits 10 digits.length 0 0 digits with
        | (0, _, _) => (0, text)
        | (_, value, rest) => (if negative then -(value : Int) else value, rest)
      else (0, text)
  | [] => (0, [])

/-- A text without a word at its start, in small letters or capitals. -/
def without? (word : String) (text : Bytes) : Option Bytes :=
  let size := word.length
  if (text.take size).map Char.toLower = word.toList then some (text.drop size) else none

/-- The digits before and after the point of a number: their value, how many follow the point, how many
there are, and the rest. -/
def mantissa (base : Nat) (text : Bytes) : Nat × Nat × Nat × Bytes :=
  let (whole, value, rest) := Escape.digits base text.length 0 0 text
  match rest with
  | '.' :: part =>
      let (places, value, after) := Escape.digits base part.length 0 value part
      if whole + places = 0 then (0, 0, 0, text) else (value, places, whole + places, after)
  | rest => (value, 0, whole, rest)

/-- The fraction at the start of a text: decimal or hexadecimal, a word for an infinite number or one for
no number. -/
def fraction (text : Bytes) : Reading Magnitude :=
  let (negative, unsigned) := sign (text.dropWhile isBlank)
  let decimal : Reading Magnitude :=
    match mantissa 10 unsigned with
    | (_, _, 0, _) => ⟨false, .ratio 0 1, text, false⟩
    | (value, places, _, rest) =>
        let (power, rest) := exponent 'e' rest
        ⟨negative, scaleTen value (power - places), rest, true⟩
  match without? "infinity" unsigned, without? "inf" unsigned, without? "nan" unsigned with
  | some rest, _, _ => ⟨negative, .infinite, rest, true⟩
  | none, some rest, _ => ⟨negative, .infinite, rest, true⟩
  | none, none, some rest => ⟨negative, .undefined, rest, true⟩
  | none, none, none =>
      match without? "0x" unsigned with
      | none => decimal
      | some digits =>
          match mantissa 16 digits with
          | (_, _, 0, _) => decimal
          | (value, places, _, rest) =>
              let (power, rest) := exponent 'p' rest
              let limit : Int := 20000 + Nat.log2 value
              let shift := max (-limit) (min limit (power - 4 * places))
              ⟨negative, if 0 ≤ shift then .ratio (value * Nat.pow 2 shift.toNat) 1
                else .ratio value (Nat.pow 2 (-shift).toNat), rest, true⟩

/-- The digits of a fraction with a number of places after the point. -/
def fixed (places : Nat) (keepsPoint : Bool) (numerator denominator : Nat) : Bytes :=
  let all := Bytes.ofNat (roundedQuotient (numerator * Nat.pow 10 places) denominator)
  let all := List.replicate (places + 1 - all.length) '0' ++ all
  let whole := all.take (all.length - places)
  let part := all.drop (all.length - places)
  whole ++ (if places = 0 ∧ !keepsPoint then [] else '.' :: part)

/-- The power of ten of the first digit of a fraction that is rounded to `digits` digits, and the digits
as a number. -/
def leading (digits numerator denominator : Nat) : Int × Nat :=
  if numerator = 0 then (0, 0)
  else
    let guess : Int := (Nat.toDigits 10 numerator).length - (Nat.toDigits 10 denominator).length
    let scaled (power : Int) : Nat × Nat :=
      if 0 ≤ power then (numerator, denominator * Nat.pow 10 power.toNat) else (numerator * Nat.pow 10 (-power).toNat, denominator)
    let power : Int :=
      let (numerator, denominator) := scaled guess
      if numerator < denominator then guess - 1 else guess
    let (numerator, denominator) := scaled (power - (digits - 1 : Nat))
    let rounded := roundedQuotient numerator denominator
    if rounded = Nat.pow 10 digits then (power + 1, Nat.pow 10 (digits - 1)) else (power, rounded)

/-- The exponent of a number in powers of ten, with at least two digits. -/
def exponentText (power : Int) : Bytes :=
  let digits := Bytes.ofNat power.natAbs
  ['e', if power < 0 then '-' else '+'] ++ List.replicate (2 - digits.length) '0' ++ digits

/-- A number of digits with a point after the first one. -/
def pointed (keepsPoint : Bool) (digits : Bytes) : Bytes :=
  digits.take 1 ++ (if digits.length ≤ 1 ∧ !keepsPoint then [] else '.' :: digits.drop 1)

/-- A fraction in powers of ten. -/
def scientific (places : Nat) (keepsPoint : Bool) (numerator denominator : Nat) : Bytes :=
  let (power, digits) := leading (places + 1) numerator denominator
  let digits := Bytes.ofNat digits
  let digits := digits ++ List.replicate (places + 1 - digits.length) '0'
  pointed keepsPoint digits ++ exponentText power

/-- Zeros at the end of the places after a point are left out, and so is a point without places. -/
def trimmed (digits : Bytes) : Bytes :=
  if digits.contains '.' then
    let kept := (digits.reverse.dropWhile (· == '0')).reverse
    if kept.getLast? = some '.' then kept.dropLast else kept
  else digits

/-- A fraction in the shorter of the two forms, with a number of digits. -/
def general (precision : Nat) (keepsZeros : Bool) (numerator denominator : Nat) : Bytes :=
  let precision := max precision 1
  let (power, _) := leading precision numerator denominator
  if -4 ≤ power ∧ power < precision then
    let text := fixed ((precision : Int) - 1 - power).toNat keepsZeros numerator denominator
    if keepsZeros then text else trimmed text
  else
    let text := scientific (precision - 1) keepsZeros numerator denominator
    if keepsZeros then text
    else
      let mantissa := text.takeWhile (· != 'e')
      trimmed mantissa ++ text.drop mantissa.length

/-- A fraction in powers of two, without the mark of its base. The first digit holds the bits that fill no
digit, or four; for fractions that do not keep all their bits it can be zero. -/
def hexadecimal (precision : Precision) (places? : Option Nat) (keepsPoint : Bool)
    (numerator denominator : Nat) : Bytes :=
  let count := (precision.bits - 1) / 4
  let first := precision.bits - 4 * count
  let power : Int :=
    let guess : Int := Nat.log2 numerator - Nat.log2 denominator
    let isLess := if 0 ≤ guess then decide (numerator < denominator * Nat.pow 2 guess.toNat)
      else decide (numerator * Nat.pow 2 (-guess).toNat < denominator)
    (if isLess then guess - 1 else guess) - (first - 1 : Nat)
  let power := if numerator = 0 then 0 else max power (-(precision.full + (first - 1) : Nat))
  let shift : Int := 4 * count - power
  let digits := if 0 ≤ shift then numerator * Nat.pow 2 shift.toNat / denominator
    else numerator / (denominator * Nat.pow 2 (-shift).toNat)
  let all := Nat.toDigits 16 (digits % Nat.pow 16 count)
  let all := List.replicate (count - all.length) '0' ++ all
  let shown := (all.reverse.dropWhile (· == '0')).length
  let places := places?.getD shown
  let kept := if places < count then roundedQuotient digits (Nat.pow 16 (count - places))
    else digits * Nat.pow 16 (places - count)
  let (kept, power) := if 16 * Nat.pow 16 places ≤ kept then (kept / 16, power + 4) else (kept, power)
  let after := Nat.toDigits 16 (kept % Nat.pow 16 places)
  let after := List.replicate (places - after.length) '0' ++ after
  Nat.toDigits 16 (kept / Nat.pow 16 places) ++
    (if places = 0 then (if keepsPoint then ['.'] else []) else '.' :: after) ++
    ['p', if power < 0 then '-' else '+'] ++ Bytes.ofNat power.natAbs

end CommandShell.Host.Numeral
