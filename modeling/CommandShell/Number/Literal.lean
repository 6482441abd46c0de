import CommandShell.Number.Binary64
import CommandShell.Text.Characters

/-!
Numbers as users write them: blanks around them, one sign, digits of any script, and single
underscores between digits.
-/

namespace CommandShell.Literal

/-- The digits that continue a number, each with at most one underscore before it, and the rest. -/
def moreDigits : List Char → List Nat × List Char
  | '_' :: char :: rest =>
      match Text.digit? char with
      | some digit => (digit :: (moreDigits rest).1, (moreDigits rest).2)
      | none => ([], '_' :: char :: rest)
  | char :: rest =>
      match Text.digit? char with
      | some digit => (digit :: (moreDigits rest).1, (moreDigits rest).2)
      | none => ([], char :: rest)
  | [] => ([], [])

/-- The digits at the start of a text, and the rest. An underscore starts no number. -/
def digits : List Char → List Nat × List Char
  | [] => ([], [])
  | char :: rest =>
      match Text.digit? char with
      | some digit => (digit :: (moreDigits rest).1, (moreDigits rest).2)
      | none => ([], char :: rest)

/-- The value of decimal digits, the first one highest. -/
def value (digits : List Nat) : Nat := digits.foldl (fun number digit => 10 * number + digit) 0

/-- The sign at the start of a text, true for minus, and the rest. -/
def sign : List Char → Bool × List Char
  | '-' :: rest => (true, rest)
  | '+' :: rest => (false, rest)
  | text => (false, text)

/-- An integer has at most this many digits. -/
def digitLimit : Nat := 4300

/-- What is said of an integer with too many digits. -/
def lengthText (count : Nat) : String :=
  "Exceeds the limit (" ++ toString digitLimit ++ " digits) for integer string conversion: value has " ++
    toString count ++ " digits; use sys.set_int_max_str_digits() to increase the limit"

/-- The integer that a text spells. -/
def integer? (text : List Char) : Option Int :=
  let (negative, unsigned) := sign (Text.trim Text.isNumberBlank text)
  match digits unsigned with
  | ([], _) => none
  | (first :: others, []) =>
      if digitLimit < (first :: others).length then none
      else some (if negative then -(value (first :: others) : Int) else value (first :: others))
  | (_ :: _, _ :: _) => none

/-- The double nearest to `significand * 10 ^ exponent`. The bounds keep the powers small: beyond
them every such number is infinite or zero. -/
def scaleTen (negative : Bool) (significand : Nat) (exponent : Int) (length : Nat) : Binary64 :=
  if significand = 0 then Binary64.zero negative
  else if 310 < exponent + length then .infinite negative
  else if exponent + length < -330 then Binary64.zero negative
  else if 0 ≤ exponent then Binary64.ofRatio negative (significand * Nat.pow 10 exponent.toNat) 1
  else Binary64.ofRatio negative significand (Nat.pow 10 (-exponent).toNat)

/-- The exponent part of a number, which may be missing, when nothing follows it. -/
def exponent? : List Char → Option Int
  | [] => some 0
  | mark :: rest =>
      if mark = 'e' ∨ mark = 'E' then
        let (negative, unsigned) := sign rest
        match digits unsigned with
        | (first :: others, []) =>
            some (if negative then -(value (first :: others) : Int) else value (first :: others))
        | _ => none
      else none

/-- The digits after a point, when there is a point, and the rest. -/
def fraction : List Char → Bool × List Nat × List Char
  | '.' :: rest => (true, (digits rest).1, (digits rest).2)
  | text => (false, [], text)

/-- An unsigned number with at least one digit before or after its point. -/
def decimal? (negative : Bool) (text : List Char) : Option Binary64 :=
  let (whole, afterWhole) := digits text
  let (_, part, rest) := fraction afterWhole
  let all := whole ++ part
  if all.isEmpty then none
  else (exponent? rest).map fun exponent =>
    let significant := all.dropWhile (· == 0)
    scaleTen negative (value significant) (exponent - part.length) significant.length

/-- The lower case of an ASCII letter. -/
def asciiLower (char : Char) : Char :=
  if 'A' ≤ char ∧ char ≤ 'Z' then Char.ofNat (char.toNat + 32) else char

/-- The double that a text spells; the words for infinity and for no number ignore case. -/
def double? (text : List Char) : Option Binary64 :=
  let (negative, unsigned) := sign (Text.trim Text.isNumberBlank text)
  let word := unsigned.map asciiLower
  if word = ['i', 'n', 'f'] ∨ word = ['i', 'n', 'f', 'i', 'n', 'i', 't', 'y'] then
    some (.infinite negative)
  else if word = ['n', 'a', 'n'] then some .nan
  else decimal? negative unsigned

end CommandShell.Literal
