/-!
Double precision numbers as signed multiples of powers of two, and the correctly rounded quotient of
two natural numbers.
-/

namespace CommandShell

/-- A double is a multiple of a power of two, an infinity, or not a number. -/
inductive Binary64 where
  | finite (negative : Bool) (significand : Nat) (exponent : Int)
  | infinite (negative : Bool)
  | nan
  deriving DecidableEq, Repr

namespace Binary64

/-- The significand has at most this many bits. -/
def precision : Nat := 53

/-- The exponent of the smallest positive double. -/
def leastExponent : Int := -1074

/-- The exponent of the largest double. -/
def greatestExponent : Int := 971

def zero (negative : Bool) : Binary64 := .finite negative 0 leastExponent

/-- The nearest natural number to a quotient; of two nearest ones the even. -/
def roundDiv (numerator denominator : Nat) : Nat :=
  let quotient := numerator / denominator
  let twice := 2 * (numerator % denominator)
  if denominator < twice ∨ (denominator = twice ∧ quotient % 2 = 1) then quotient + 1 else quotient

/-- Numerator and denominator of a quotient divided by a power of two. -/
def scale (numerator denominator : Nat) (exponent : Int) : Nat × Nat :=
  if 0 ≤ exponent then (numerator, denominator * Nat.pow 2 exponent.toNat)
  else (numerator * Nat.pow 2 (-exponent).toNat, denominator)

/-- The exponent at which a quotient has as many bits as the precision allows. -/
def exponentFor (numerator denominator : Nat) : Int :=
  let guess := max ((numerator.log2 : Int) - denominator.log2 - precision) leastExponent
  let scaled := scale numerator denominator guess
  if Nat.pow 2 precision ≤ scaled.1 / scaled.2 then guess + 1 else guess

/-- The double nearest to a quotient; a quotient beyond the largest double becomes infinite. -/
def ofRatio (negative : Bool) (numerator denominator : Nat) : Binary64 :=
  if numerator = 0 then zero negative
  else
    let exponent := exponentFor numerator denominator
    let scaled := scale numerator denominator exponent
    let significand := roundDiv scaled.1 scaled.2
    let carried := significand = Nat.pow 2 precision
    let significand := if carried then Nat.pow 2 (precision - 1) else significand
    let exponent := if carried then exponent + 1 else exponent
    if greatestExponent < exponent then .infinite negative
    else .finite negative significand exponent

/-- A number below zero; a negative zero is not below zero. -/
def isBelowZero : Binary64 → Bool
  | .finite negative significand _ => negative && significand != 0
  | .infinite negative => negative
  | .nan => false

/-- The whole part of a finite double without its sign. -/
def floor? : Binary64 → Option Nat
  | .finite _ significand exponent =>
      some (if 0 ≤ exponent then significand * Nat.pow 2 exponent.toNat
        else significand / Nat.pow 2 (-exponent).toNat)
  | .infinite _ => none
  | .nan => none

/-- The whole milliseconds in a number of seconds; there are none in an endless one. -/
def wholeMilliseconds : Binary64 → Nat
  | .finite _ significand exponent =>
      (scale (significand * 1000) 1 (-exponent)).1 / (scale (significand * 1000) 1 (-exponent)).2
  | .infinite _ => 0
  | .nan => 0

/-- The sign, exponent and fraction of a double as one 64-bit number. -/
def toBits : Binary64 → Nat
  | .finite negative significand exponent =>
      (if negative then Nat.pow 2 63 else 0) +
        (if significand < Nat.pow 2 52 then significand
         else (exponent + 1075).toNat * Nat.pow 2 52 + (significand - Nat.pow 2 52))
  | .infinite negative => (if negative then Nat.pow 2 63 else 0) + 2047 * Nat.pow 2 52
  | .nan => 2047 * Nat.pow 2 52 + Nat.pow 2 51

end Binary64

end CommandShell
