import CommandShell.Host.Numeral

/-!
Arithmetic on machine integers, as scripts write it. Names stand for variables, which can be assigned.
-/

namespace CommandShell.Host.Script.Arithmetic

/-- A word of an expression. -/
inductive Token where
  | number (value : Int)
  | name (name : Bytes)
  | sign (sign : String)
  deriving DecidableEq, Repr

/-- The signs, the longer ones first. -/
def signs : List String := [
  "<<=", ">>=", "<<", ">>", "<=", ">=", "==", "!=", "&&", "||", "+=", "-=", "*=", "/=", "%=", "&=",
  "^=", "|=", "+", "-", "*", "/", "%", "<", ">", "=", "!", "~", "&", "^", "|", "?", ":", "(", ")"]

/-- A letter or an underscore, or a digit inside a name. -/
def isNameChar (char : Char) : Bool := char.isAlphanum || char == '_'

/-- The words of an expression, at most `steps` of them. A character that starts no word becomes a sign
of its own. -/
def tokens (steps : Nat) (text : Bytes) : List Token :=
  match steps, text with
  | 0, _ => []
  | _, [] => []
  | steps + 1, char :: rest =>
      if Numeral.isBlank char then tokens steps rest
      else if char.isDigit then
        let reading := Numeral.integer none (char :: rest)
        .number (Numeral.signed reading).1 :: tokens steps reading.rest
      else if isNameChar char then
        .name ((char :: rest).takeWhile isNameChar) ::
          tokens steps ((char :: rest).dropWhile isNameChar)
      else match signs.find? fun sign => sign.toList.isPrefixOf (char :: rest) with
        | some sign => .sign sign :: tokens steps ((char :: rest).drop sign.length)
        | none => .sign char.toString :: tokens steps rest

/-- The variables of an expression while it is computed. -/
structure Scope where
  /-- The value of a variable, or the text that is no number. -/
  value : Bytes → Except Bytes Int
  /-- The assignments so far, the last one first. -/
  assigned : List (Bytes × Int)

/-- Why an expression has no value. -/
inductive Fault where
  | noNumber (text : Bytes)
  | divisionByZero
  /-- The least integer has no counterpart above zero. -/
  | noQuotient
  | expected (what : String)
  deriving DecidableEq, Repr

/-- The value of a variable after the assignments. -/
def Scope.lookup (scope : Scope) (name : Bytes) : Except Fault Int :=
  match scope.assigned.lookup name with
  | some value => .ok value
  | none => (scope.value name).mapError .noNumber

/-- A value, the words left, and the assignments. -/
abbrev Result := Except Fault (Int × List Token × Scope)

/-- How tightly a sign between two values binds. -/
def strength? : String → Option Nat
  | "*" => some 10
  | "/" => some 10
  | "%" => some 10
  | "+" => some 9
  | "-" => some 9
  | "<<" => some 8
  | ">>" => some 8
  | "<" => some 7
  | "<=" => some 7
  | ">" => some 7
  | ">=" => some 7
  | "==" => some 6
  | "!=" => some 6
  | "&" => some 5
  | "^" => some 4
  | "|" => some 3
  | _ => none

/-- One for what holds and zero for what does not. -/
def truth (holds : Bool) : Int := if holds then 1 else 0

/-- An integer as a machine word without a sign. -/
def word (value : Int) : Nat := (value % Numeral.wordSize).toNat

/-- Whether an integer can be divided by another one. -/
def divisible (first second : Int) : Except Fault Unit :=
  if second = 0 then .error .divisionByZero
  else if second = -1 ∧ Numeral.wrap (-first) = first ∧ first ≠ 0 then .error .noQuotient
  else .ok ()

/-- The value of a sign between two values. -/
def apply (sign : String) (first second : Int) : Except Fault Int :=
  match sign with
  | "*" => .ok (Numeral.wrap (first * second))
  | "/" => (divisible first second).map fun _ => first.tdiv second
  | "%" => (divisible first second).map fun _ => first.tmod second
  | "+" => .ok (Numeral.wrap (first + second))
  | "-" => .ok (Numeral.wrap (first - second))
  | "<<" => .ok (Numeral.wrap (first * Int.pow 2 (second % 64).toNat))
  | ">>" => .ok (Int.fdiv first (Int.pow 2 (second % 64).toNat))
  | "<" => .ok (truth (first < second))
  | "<=" => .ok (truth (first ≤ second))
  | ">" => .ok (truth (second < first))
  | ">=" => .ok (truth (second ≤ first))
  | "==" => .ok (truth (first = second))
  | "!=" => .ok (truth (first ≠ second))
  | "&" => .ok (Numeral.wrap (Nat.land (word first) (word second)))
  | "^" => .ok (Numeral.wrap (Nat.xor (word first) (word second)))
  | _ => .ok (Numeral.wrap (Nat.lor (word first) (word second)))

/-- The sign inside an assignment that computes, such as the plus in `+=`. -/
def assignmentSign? (sign : String) : Option String :=
  if ["<<=", ">>=", "+=", "-=", "*=", "/=", "%=", "&=", "^=", "|="].contains sign then
    some (String.ofList sign.toList.dropLast)
  else none

mutual

/-- A number, a variable, or an expression in brackets, with signs before it. `counts` is false in a
branch that is not taken, where nothing is assigned and nothing is divided. -/
def primary (steps : Nat) (counts : Bool) (scope : Scope) (words : List Token) : Result :=
  match steps with
  | 0 => .error (.expected "primary")
  | steps + 1 =>
      match words with
      | .number value :: rest => .ok (value, rest, scope)
      | .name name :: rest => do
          if counts then return (← scope.lookup name, rest, scope) else return (0, rest, scope)
      | .sign "(" :: rest => do
          let (value, rest, scope) ← assignment steps counts scope rest
          match rest with
          | .sign ")" :: rest => return (value, rest, scope)
          | _ => throw (.expected "')'")
      | .sign "!" :: rest => do
          let (value, rest, scope) ← primary steps counts scope rest
          return (truth (value = 0), rest, scope)
      | .sign "~" :: rest => do
          let (value, rest, scope) ← primary steps counts scope rest
          return (Numeral.wrap (-value - 1), rest, scope)
      | .sign "-" :: rest => do
          let (value, rest, scope) ← primary steps counts scope rest
          return (Numeral.wrap (-value), rest, scope)
      | .sign "+" :: rest => primary steps counts scope rest
      | _ => .error (.expected "primary")

/-- Values with signs between them that bind at least as tightly as `least`, after a first value. -/
def binary (steps : Nat) (counts : Bool) (least : Nat) (first : Int) (words : List Token)
    (scope : Scope) : Result :=
  match steps with
  | 0 => .ok (first, words, scope)
  | steps + 1 =>
      match words with
      | .sign sign :: rest =>
          match strength? sign with
          | none => .ok (first, words, scope)
          | some strength =>
              if strength < least then .ok (first, words, scope)
              else do
                let (second, rest, scope) ← primary steps counts scope rest
                let (second, rest, scope) ← binary steps counts (strength + 1) second rest scope
                let value ← if counts then apply sign first second else pure 0
                binary steps counts least value rest scope
      | _ => .ok (first, words, scope)

/-- Values all of which must hold. -/
def conjunction (steps : Nat) (counts : Bool) (scope : Scope) (words : List Token) : Result :=
  match steps with
  | 0 => .error (.expected "primary")
  | steps + 1 => do
      let (value, rest, scope) ← primary steps counts scope words
      let (value, rest, scope) ← binary steps counts 0 value rest scope
      match rest with
      | .sign "&&" :: rest =>
          let (other, rest, scope) ← conjunction steps (counts && value != 0) scope rest
          return (truth (value ≠ 0 ∧ other ≠ 0), rest, scope)
      | rest => return (value, rest, scope)

/-- Values of which one must hold. -/
def disjunction (steps : Nat) (counts : Bool) (scope : Scope) (words : List Token) : Result :=
  match steps with
  | 0 => .error (.expected "primary")
  | steps + 1 => do
      let (value, rest, scope) ← conjunction steps counts scope words
      match rest with
      | .sign "||" :: rest =>
          let (other, rest, scope) ← disjunction steps (counts && value == 0) scope rest
          return (truth (value ≠ 0 ∨ other ≠ 0), rest, scope)
      | rest => return (value, rest, scope)

/-- A value that a condition chooses out of two. -/
def conditional (steps : Nat) (counts : Bool) (scope : Scope) (words : List Token) : Result :=
  match steps with
  | 0 => .error (.expected "primary")
  | steps + 1 => do
      let (value, rest, scope) ← disjunction steps counts scope words
      match rest with
      | .sign "?" :: rest =>
          let (first, rest, scope) ← assignment steps (counts && value != 0) scope rest
          match rest with
          | .sign ":" :: rest =>
              let (second, rest, scope) ← conditional steps (counts && value == 0) scope rest
              return (if value ≠ 0 then first else second, rest, scope)
          | _ => throw (.expected "':'")
      | rest => return (value, rest, scope)

/-- A value, or an assignment of one. -/
def assignment (steps : Nat) (counts : Bool) (scope : Scope) (words : List Token) : Result :=
  match steps with
  | 0 => .error (.expected "primary")
  | steps + 1 =>
      match words with
      | .name name :: .sign sign :: rest =>
          if sign = "=" then do
            let (value, rest, scope) ← assignment steps counts scope rest
            return (value, rest,
              if counts then { scope with assigned := (name, value) :: scope.assigned } else scope)
          else match assignmentSign? sign with
            | none => conditional steps counts scope words
            | some sign => do
                let (second, rest, scope) ← assignment steps counts scope rest
                if counts then
                  let value ← apply sign (← scope.lookup name) second
                  return (value, rest, { scope with assigned := (name, value) :: scope.assigned })
                else return (0, rest, scope)
      | words => conditional steps counts scope words

end

/-- The value of an expression and the assignments in it, the last one first. -/
def evaluate (value : Bytes → Except Bytes Int) (text : Bytes) :
    Except Fault (Int × List (Bytes × Int)) := do
  let words := tokens text.length text
  let (value, rest, scope) ← assignment (12 * words.length + 12) true ⟨value, []⟩ words
  match rest with
  | [] => return (value, scope.assigned)
  | _ => throw (.expected "EOF")

end CommandShell.Host.Script.Arithmetic
