import CommandShell.Host.Bytes

/-!
Patterns: an asterisk stands for any text, a question mark for any byte, and square brackets for one of
some bytes. A quoted byte stands for itself.
-/

namespace CommandShell.Host.Script

/-- A byte of a pattern, and whether it is quoted. -/
structure PatternByte where
  char : Char
  quoted : Bool
  deriving DecidableEq, Repr

/-- A pattern. -/
abbrev Pattern := List PatternByte

namespace Pattern

/-- A pattern that is written with a backslash before each quoted byte. A backslash at the end stands for
itself. -/
def ofWritten : Bytes → Pattern
  | '\\' :: char :: rest => ⟨char, true⟩ :: ofWritten rest
  | char :: rest => ⟨char, char == '\\'⟩ :: ofWritten rest
  | [] => []

/-- The place of a byte in the order of ranges, in which the bytes beyond the plain ones come first. -/
def rank (char : Char) : Int := Int.bmod char.toNat 256

/-- The unquoted byte at the start. -/
def special (byte : PatternByte) (char : Char) : Bool := !byte.quoted && byte.char == char

/-- The classes of bytes that have a name. -/
def inClass (name : String) (char : Char) : Bool :=
  let visible := decide (0x21 ≤ char.toNat ∧ char.toNat ≤ 0x7E)
  match name with
  | "alpha" => char.isAlpha
  | "digit" => char.isDigit
  | "alnum" => char.isAlphanum
  | "upper" => char.isUpper
  | "lower" => char.isLower
  | "space" => [' ', '\t', '\n', '\x0b', '\x0c', '\r'].contains char
  | "blank" => [' ', '\t'].contains char
  | "punct" => visible && !char.isAlphanum
  | "print" => visible || char == ' '
  | "graph" => visible
  | "cntrl" => char.toNat < 0x20 || char.toNat == 0x7F
  | "xdigit" => char.isDigit || (decide ('a' ≤ char.toLower) && decide (char.toLower ≤ 'f'))
  | _ => false

/-- The name of a class after its opening, and the rest after its end. -/
def className? : Pattern → Option (List Char × Pattern)
  | [] => none
  | byte :: rest =>
      match byte.char, rest with
      | ':', next :: after => if next.char = ']' then some ([], after) else none
      | char, rest =>
          if char.isLower then (className? rest).map fun (name, rest) => (char :: name, rest)
          else none

/-- Whether one of the bytes in brackets is a given one, and the pattern after the brackets. Brackets that
are not closed are no brackets. -/
def bracket? (steps : Nat) (isFirst found : Bool) (char : Char) (pattern : Pattern) :
    Option (Bool × Pattern) :=
  match steps, pattern with
  | 0, _ => none
  | _, [] => none
  | steps + 1, byte :: rest =>
      if special byte ']' && !isFirst then some (found, rest)
      else
        let single : Option (Bool × Pattern) :=
          match rest with
          | dash :: last :: after =>
              if special dash '-' && !special last ']' then
                bracket? steps false
                  (found || (decide (rank byte.char ≤ rank char) && decide (rank char ≤ rank last.char)))
                  char after
              else bracket? steps false (found || byte.char == char) char rest
          | rest => bracket? steps false (found || byte.char == char) char rest
        match special byte '[', rest with
        | true, colon :: after =>
            if special colon ':' then
              match className? after with
              | some (name, after) =>
                  bracket? steps false (found || inClass (String.ofList name) char) char after
              | none => single
            else single
        | _, _ => single

/-- Whether a pattern stands for a whole text, in at most `steps` steps. -/
def matchesIn (steps : Nat) (pattern : Pattern) (text : Bytes) : Bool :=
  match steps with
  | 0 => false
  | steps + 1 =>
      match pattern with
      | [] => text.isEmpty
      | byte :: rest =>
          if special byte '*' then
            matchesIn steps rest text || match text with
              | [] => false
              | _ :: others => matchesIn steps pattern others
          else match text with
            | [] => false
            | char :: others =>
                let plain := byte.char == char && matchesIn steps rest others
                if special byte '?' then matchesIn steps rest others
                else if special byte '[' then
                  let (negated, inside) := match rest with
                    | first :: inside =>
                        if special first '!' then (true, inside) else (false, rest)
                    | [] => (false, rest)
                  match bracket? (inside.length + 1) true false char inside with
                  | some (found, after) => (xor negated found) && matchesIn steps after others
                  | none => plain
                else plain

/-- Whether a pattern stands for a whole text. -/
def matchesText (pattern : Pattern) (text : Bytes) : Bool :=
  matchesIn (pattern.length + text.length + 1) pattern text

/-- The lengths that a start or an end of a text can have, in the order they are tried. -/
def lengths (longest : Bool) (text : Bytes) : List Nat :=
  let all := List.range (text.length + 1)
  if longest then all.reverse else all

/-- A text without a start that a pattern stands for. -/
def withoutStart (longest : Bool) (pattern : Pattern) (text : Bytes) : Bytes :=
  match (lengths longest text).find? fun length => matchesText pattern (text.take length) with
  | some length => text.drop length
  | none => text

/-- A text without an end that a pattern stands for. -/
def withoutEnd (longest : Bool) (pattern : Pattern) (text : Bytes) : Bytes :=
  let cut (length : Nat) : Nat := text.length - length
  match (lengths longest text).find? fun length => matchesText pattern (text.drop (cut length)) with
  | some length => text.take (cut length)
  | none => text

end Pattern

end CommandShell.Host.Script
