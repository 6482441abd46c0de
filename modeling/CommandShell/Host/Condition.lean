import CommandShell.Host.Files
import CommandShell.Host.Numeral
import CommandShell.Host.Quoting

/-!
Conditions on texts, numbers and paths, as words. A program and a script read the same words by
slightly different rules.
-/

namespace CommandShell.Host.Condition

/-- How a condition sees the file system. -/
structure View where
  /-- What a path names, and where. -/
  find? : Bytes → Option (Place × Entry)
  /-- A path is a link itself. -/
  isLink : Bytes → Bool

/-- Operators that have one operand. -/
def unaryOperators : List String := [
  "-b", "-c", "-d", "-e", "-f", "-g", "-G", "-h", "-k", "-L", "-n", "-O", "-p", "-r", "-s", "-S",
  "-t", "-u", "-w", "-x", "-z"]

/-- Operators that compare numbers. -/
def numberOperators : List String := ["-eq", "-ne", "-lt", "-le", "-gt", "-ge"]

/-- Operators between two operands. -/
def binaryOperators : List String :=
  ["=", "!=", "-nt", "-ot", "-ef"] ++ numberOperators

/-- Whether a path answers to an operator. The owner of everything asks. -/
def holdsOfPath (view : View) (operator : String) (path : Bytes) : Bool :=
  let entry? : Option Entry := (view.find? path).map (·.2)
  match operator with
  | "-b" => false
  | "-p" => false
  | "-S" => false
  | "-g" => false
  | "-u" => false
  | "-k" => (view.find? path).any fun found => [["tmp"], ["var", "tmp"]].contains found.1
  | "-c" => entry? = some .device
  | "-d" => entry? = some .directory
  | "-f" => match entry? with
    | some .document => true
    | some (.program _) => true
    | _ => false
  | "-h" => view.isLink path
  | "-L" => view.isLink path
  | "-s" => entry?.isSome && entry? != some .device
  | "-x" => match entry? with
    | some .directory => true
    | some (.program _) => true
    | _ => false
  | _ => entry?.isSome

/-- Whether an operand answers to an operator. Nothing is a terminal. -/
def holdsOfOne (view : View) (operator : String) (operand : Bytes) : Bool :=
  match operator with
  | "-n" => !operand.isEmpty
  | "-z" => operand.isEmpty
  | "-t" => false
  | _ => holdsOfPath view operator operand

/-- Whether two numbers are in an order. -/
def holdsOfNumbers (operator : String) (first second : Int) : Bool :=
  match operator with
  | "-eq" => first = second
  | "-ne" => first ≠ second
  | "-lt" => first < second
  | "-le" => first ≤ second
  | "-gt" => second < first
  | _ => second ≤ first

/-- Whether two texts or paths are in a relation. A path that exists is newer than one that does
not. -/
def holdsOfTexts (view : View) (operator : String) (first second : Bytes) : Bool :=
  match operator with
  | "=" => first = second
  | "==" => first = second
  | "!=" => first ≠ second
  | "<" => first < second
  | ">" => second < first
  | "-nt" => (view.find? first).isSome && (view.find? second).isNone
  | "-ot" => (view.find? first).isNone && (view.find? second).isSome
  | _ => match view.find? first, view.find? second with
    | some first, some second => first.1 == second.1
    | _, _ => false

/-- A number with blanks around it. A limited one fits a machine integer. -/
def integer? (limited : Bool) (text : Bytes) : Option Int :=
  let reading := Numeral.integer (some 10) text
  if reading.found && reading.rest.all Numeral.isBlank then
    if limited then
      let (value, inRange) := Numeral.signed reading
      if inRange then some value else none
    else some (if reading.negative then -(reading.value : Int) else reading.value)
  else none

/-- A word as a message of a program names it. -/
def quoted (word : Bytes) : String := Bytes.toText (Quoting.quoted word)

/-- The number that an operand must be. -/
def number (limited : Bool) (operand : Bytes) : Except String Int :=
  match integer? limited operand with
  | some value => .ok value
  | none =>
      .error <|
        if limited then "Illegal number: " ++ Bytes.toText operand
        else "invalid integer " ++ quoted operand

/-- The words of a condition as strings, to be compared with operators. -/
def isWord (words : List Bytes) (place : Nat) (word : String) : Bool :=
  words[place]? == some word.toList

/-- The operator at a place, out of a list. -/
def operator? (operators : List String) (words : List Bytes) (place : Nat) : Option String :=
  match words[place]? with
  | some word => operators.find? fun operator => operator.toList == word
  | none => none

/-! ### Inside a script -/

namespace Script

/-- Operators between two operands inside a script. -/
def binary : List String := binaryOperators ++ ["<", ">"]

/-- Whether two operands are in a relation. A path is newer only than one that exists, and nothing is
known about when. -/
def holdsOfTwo (view : View) (operator : String) (first second : Bytes) : Except String Bool :=
  if numberOperators.contains operator then
    return holdsOfNumbers operator (← number true first) (← number true second)
  else if operator == "-nt" || operator == "-ot" then return false
  else return holdsOfTexts view operator first second

/-- What a word is at its place. -/
inductive Role where
  | missing
  | operand
  | unary (operator : String)
  | binary (operator : String)
  | negation
  | both
  | either
  | opening
  | closing
  deriving DecidableEq, Repr

/-- The role of a word on its own. -/
def roleOf (word : Bytes) : Role :=
  let text := String.ofList word
  if unaryOperators.contains text then .unary text
  else if binary.contains text then .binary text
  else match text with
    | "!" => .negation
    | "-a" => .both
    | "-o" => .either
    | "(" => .opening
    | ")" => .closing
    | _ => .operand

/-- The word at a place is an operand, although it looks like an operator with one operand. -/
def isOperand (words : List Bytes) (place : Nat) : Bool :=
  match words[place + 1]?, words[place + 2]? with
  | none, _ => true
  | some _, none => false
  | some next, some _ => match roleOf next with
    | .binary _ => true
    | _ => false

/-- The role of the word at a place. -/
def role (words : List Bytes) (place : Nat) : Role :=
  match words[place]? with
  | none => .missing
  | some word =>
      match roleOf word with
      | .unary operator => if isOperand words place then .operand else .unary operator
      | .opening => if words[place + 1]?.isNone then .operand else .opening
      | found => found

/-- The value of a part of a condition, and the place of its last word. -/
abbrev Value := Except String (Bool × Nat)

/-- The value of a condition between two operands, the first one at a place. -/
def relation (view : View) (words : List Bytes) (place : Nat) (operator : String) : Value := do
  match words[place]?, words[place + 2]? with
  | some first, some second => return (← holdsOfTwo view operator first second, place + 2)
  | _, _ => throw (operator ++ ": argument expected")

mutual

/-- Conditions of which one must hold. -/
def anyOf (view : View) (words : List Bytes) (steps : Nat) (place : Nat) (first : Role) : Value :=
  match steps with
  | 0 => .error "too many words"
  | steps + 1 => do
      let (value, place) ← allOf view words steps place first
      if role words (place + 1) = .either then
        let (other, place) ← anyOf view words steps (place + 2) (role words (place + 2))
        return (value || other, place)
      else return (value, place)

/-- Conditions all of which must hold. -/
def allOf (view : View) (words : List Bytes) (steps : Nat) (place : Nat) (first : Role) : Value :=
  match steps with
  | 0 => .error "too many words"
  | steps + 1 => do
      let (value, place) ← negatable view words steps place first
      if role words (place + 1) = .both then
        let (other, place) ← allOf view words steps (place + 2) (role words (place + 2))
        return (value && other, place)
      else return (value, place)

/-- A condition after signs that turn it around. -/
def negatable (view : View) (words : List Bytes) (steps : Nat) (place : Nat) (first : Role) :
    Value :=
  match steps with
  | 0 => .error "too many words"
  | steps + 1 => do
      if first = .negation then
        let next := role words (place + 1)
        let (value, place) ← negatable view words steps
          (if next = .missing then place else place + 1) next
        return (!value, place)
      else primary view words steps place first

/-- A condition without signs. -/
def primary (view : View) (words : List Bytes) (steps : Nat) (place : Nat) (first : Role) :
    Value :=
  match steps with
  | 0 => .error "too many words"
  | steps + 1 => do
      match first with
      | .missing => return (false, place)
      | .opening =>
          let next := role words (place + 1)
          if next = .closing then return (false, place + 1)
          else
            let (value, place) ← anyOf view words steps (place + 1) next
            if role words (place + 1) = .closing then return (value, place + 1)
            else throw "closing paren expected"
      | .unary operator =>
          match words[place + 1]? with
          | none => throw (operator ++ ": argument expected")
          | some operand =>
              if operator = "-t" then
                let _ ← number true operand
              return (holdsOfOne view operator operand, place + 1)
      | _ =>
          match role words (place + 1) with
          | .binary operator => relation view words place operator
          | _ => return (!((words[place]?).getD []).isEmpty, place)

end

/-- The value of a whole condition. -/
def evaluate (view : View) (words : List Bytes) : Except String Bool := do
  let (value, place) ← anyOf view words (8 * words.length + 8) 0
    (if words.length = 3 ∧ (operator? binary words 1).isSome then .operand else role words 0)
  match words[place]?, words[place + 1]? with
  | some word, some _ =>
      throw (if word.isEmpty then "unexpected operator" else Bytes.toText word ++ ": unexpected operator")
  | _, _ => return value

/-- Whether a condition holds, or does not where it is `turned` around. Three or four words in brackets
or after a negation are the condition that is left without them. -/
def holdsFrom (view : View) (steps : Nat) (turned : Bool) (words : List Bytes) :
    Except String Bool :=
  let value (words : List Bytes) : Except String Bool := (evaluate view words).map (xor turned ·)
  let size := words.length
  match steps with
  | 0 => value words
  | steps + 1 =>
      if size = 3 ∧ (operator? binary words 1).isSome then value words
      else if size ≠ 3 ∧ size ≠ 4 then value words
      else if isWord words 0 "(" && isWord words (size - 1) ")" then value ((words.drop 1).dropLast)
      else if isWord words 0 "!" then holdsFrom view steps true (words.drop 1)
      else value words

/-- Whether a condition holds. Without words it does not. -/
def holds (view : View) (words : List Bytes) : Except String Bool :=
  if words.isEmpty then .ok false else holdsFrom view 2 false words

end Script

/-! ### As a program -/

namespace Program

/-- Operators between two operands. -/
def binary : List String := binaryOperators ++ ["=="]

/-- The value of a part of a condition, and the place after it. -/
abbrev Value := Except String (Bool × Nat)

/-- A word is missing at the end. -/
def missing (words : List Bytes) : String :=
  "missing argument after " ++ quoted (words.getLastD [])

/-- A dash and a letter. -/
def looksUnary (word : Bytes) : Bool :=
  match word with
  | ['-', _] => true
  | _ => false

/-- A condition of an operator with one operand. -/
def unary (view : View) (words : List Bytes) (place : Nat) : Value := do
  let operator := String.ofList (words[place]?.getD [])
  if !(unaryOperators ++ ["-N"]).contains operator then
    throw (quoted (words[place]?.getD []) ++ ": unary operator expected")
  match words[place + 1]? with
  | none => throw (missing words)
  | some operand =>
      if operator = "-t" then
        let _ ← number false operand
      if operator = "-N" then return (false, place + 2)
      return (holdsOfOne view operator operand, place + 2)

/-- A condition between two operands, the first one at a place. `-l` before an operand stands for its
length. Texts are compared two words apart, so that `-l` before the second one moves the first. -/
def relation (view : View) (words : List Bytes) (measured : Bool) (place : Nat) : Value := do
  let place := if measured then place + 1 else place
  let operator := String.ofList (words[place + 1]?.getD [])
  let measuredLater := isWord words (place + 2) "-l" && (words[place + 3]?).isSome
  let second := if measuredLater then place + 3 else place + 2
  match words[place]?, words[second]? with
  | some first, some operand =>
      if numberOperators.contains operator then
        let value (measured : Bool) (word : Bytes) : Except String Int :=
          if measured then .ok word.length else number false word
        return (holdsOfNumbers operator (← value measured first) (← value measuredLater operand),
          second + 1)
      else if ["=", "==", "!="].contains operator then
        return (holdsOfTexts view operator (words[second - 2]?.getD []) operand, second + 1)
      else if measured || measuredLater then throw (operator ++ " does not accept -l")
      else return (holdsOfTexts view operator first operand, second + 1)
  | _, _ => throw (missing words)

/-- The condition of one word. -/
def one (words : List Bytes) (place : Nat) : Value :=
  match words[place]? with
  | none => .error (missing words)
  | some word => .ok (!word.isEmpty, place + 1)

/-- The condition of two words. -/
def two (view : View) (words : List Bytes) (place : Nat) : Value := do
  if isWord words place "!" then
    let (value, place) ← one words (place + 1)
    return (!value, place)
  else if looksUnary (words[place]?.getD []) then unary view words place
  else throw (missing words)

mutual

/-- The condition of a number of words from a place on. -/
def counted (view : View) (words : List Bytes) (steps : Nat) (place count : Nat) : Value :=
  match steps with
  | 0 => .error "too many words"
  | steps + 1 => do
      if count = 1 then one words place
      else if count = 2 then two view words place
      else if count = 3 then three view words steps place
      else if count = 4 ∧ isWord words place "!" then
        let (value, place) ← three view words steps (place + 1)
        return (!value, place)
      else if count = 4 ∧ isWord words place "(" ∧ isWord words (place + 3) ")" then
        let (value, place) ← two view words (place + 1)
        return (value, place + 1)
      else anyOf view words steps place

/-- The condition of three words. -/
def three (view : View) (words : List Bytes) (steps : Nat) (place : Nat) : Value :=
  match steps with
  | 0 => .error "too many words"
  | steps + 1 => do
      if (operator? binary words (place + 1)).isSome then relation view words false place
      else if isWord words place "!" then
        let (value, place) ← two view words (place + 1)
        return (!value, place)
      else if isWord words place "(" && isWord words (place + 2) ")" then
        let (value, place) ← one words (place + 1)
        return (value, place + 1)
      else if isWord words (place + 1) "-a" || isWord words (place + 1) "-o" then
        anyOf view words steps place
      else throw (quoted (words[place + 1]?.getD []) ++ ": binary operator expected")

/-- Conditions of which one must hold. -/
def anyOf (view : View) (words : List Bytes) (steps : Nat) (place : Nat) : Value :=
  match steps with
  | 0 => .error "too many words"
  | steps + 1 => do
      let (value, place) ← allOf view words steps place
      if isWord words place "-o" then
        let (other, place) ← anyOf view words steps (place + 1)
        return (value || other, place)
      else return (value, place)

/-- Conditions all of which must hold. -/
def allOf (view : View) (words : List Bytes) (steps : Nat) (place : Nat) : Value :=
  match steps with
  | 0 => .error "too many words"
  | steps + 1 => do
      let (value, place) ← term view words steps place
      if isWord words place "-a" then
        let (other, place) ← allOf view words steps (place + 1)
        return (value && other, place)
      else return (value, place)

/-- One condition, which may be turned around or stand in brackets. -/
def term (view : View) (words : List Bytes) (steps : Nat) (place : Nat) : Value :=
  match steps with
  | 0 => .error "too many words"
  | steps + 1 => do
      if isWord words place "!" then
        if words[place + 1]?.isNone then throw (missing words)
        let (value, place) ← term view words steps (place + 1)
        return (!value, place)
      match words[place]? with
      | none => throw (missing words)
      | some ['('] =>
          if words[place + 1]?.isNone then throw (missing words)
          let inner := words.drop (place + 1)
          let found := (inner.drop 1).takeWhile (· != [')'])
          let count := if 4 < found.length + 1 then inner.length else found.length + 1
          let (value, place) ← counted view words steps (place + 1) count
          match words[place]? with
          | some [')'] => return (value, place + 1)
          | some found => throw (quoted [')'] ++ " expected, found " ++ quoted found)
          | none => throw (quoted [')'] ++ " expected")
      | some word =>
          let left := words.length - place
          if 4 ≤ left ∧ word = ['-', 'l'] ∧ (operator? binary words (place + 2)).isSome then
            relation view words true place
          else if 3 ≤ left ∧ (operator? binary words (place + 1)).isSome then
            relation view words false place
          else if looksUnary word then unary view words place
          else return (!word.isEmpty, place + 1)

end

/-- Whether a condition holds. -/
def holds (view : View) (words : List Bytes) : Except String Bool := do
  if words.isEmpty then return false
  let (value, place) ← counted view words (8 * words.length + 8) 0 words.length
  match words[place]? with
  | some word => throw ("extra argument " ++ quoted word)
  | none => return value

end Program

end CommandShell.Host.Condition
