import CommandShell.Host.Bytes

/-!
Escapes in texts: a backslash and what follows it stand for one byte, or end the text. Programs differ
in the escapes they know, and a `Dialect` says in which.
-/

namespace CommandShell.Host.Escape

/-- Where an escape stands, which decides what it can be. -/
inductive Dialect where
  /-- A text that `echo` writes. -/
  | echo
  /-- The format of `printf`. -/
  | format
  /-- An argument that `printf` writes with its escapes. -/
  | argument
  /-- The format of `printf` inside a script. -/
  | scriptFormat
  /-- A text that a script writes with its escapes. -/
  | scriptText
  deriving DecidableEq, Repr

/-- What an escape stands for, with the text after it. -/
inductive Reading where
  | bytes (read rest : Bytes)
  | stop
  | fault (message : String)
  deriving DecidableEq, Repr

/-- The byte that a backslash and a letter stand for. -/
def letter? : Char → Option Char
  | 'a' => some '\x07'
  | 'b' => some '\x08'
  | 'e' => some '\x1b'
  | 'f' => some '\x0c'
  | 'n' => some '\n'
  | 'r' => some '\r'
  | 't' => some '\t'
  | 'v' => some '\x0b'
  | '\\' => some '\\'
  | _ => none

/-- The value of a digit in a base up to sixteen. -/
def digit? (base : Nat) (char : Char) : Option Nat :=
  let value :=
    if '0' ≤ char ∧ char ≤ '9' then char.toNat - '0'.toNat
    else if 'a' ≤ char ∧ char ≤ 'f' then char.toNat - 'a'.toNat + 10
    else if 'A' ≤ char ∧ char ≤ 'F' then char.toNat - 'A'.toNat + 10
    else base
  if value < base then some value else none

/-- The digits at the start of a text, at most `limit` of them: how many, their value, and the rest. -/
def digits (base : Nat) (limit : Nat) (count value : Nat) (text : Bytes) : Nat × Nat × Bytes :=
  match limit, text with
  | limit + 1, char :: rest =>
      match digit? base char with
      | some digit => digits base limit (count + 1) (base * value + digit) rest
      | none => (count, value, char :: rest)
  | _, text => (count, value, text)

/-- A byte with a code in octal digits, three at most. -/
def octal (text : Bytes) : Reading :=
  let (_, value, rest) := digits 8 3 0 0 text
  .bytes [Bytes.byte value] rest

/-- A character with a code in exactly `length` hexadecimal digits. A code that no character has stays as it
is, in capitals. -/
def universal (mark : Char) (length : Nat) (text : Bytes) : Reading :=
  let (count, value, rest) := digits 16 length 0 0 text
  if count < length then .fault "missing hexadecimal number in escape"
  else if 0xD800 ≤ value ∧ value ≤ 0xDFFF then
    .fault ("invalid universal character name \\" ++ mark.toString ++
      String.ofList ((text.take length).map Char.toLower))
  else if value ≤ 0x10FFFF then .bytes (Bytes.ofString (Char.ofNat value).toString) rest
  else
    let digits := (Nat.toDigits 16 value).map Char.toUpper
    .bytes ('\\' :: 'U' :: List.replicate (8 - digits.length) '0' ++ digits) rest

/-- What a backslash and the text after it stand for. -/
def read (dialect : Dialect) (text : Bytes) : Reading :=
  match text with
  | [] => .bytes ['\\'] []
  | char :: rest =>
      let octalDigit := (digit? 8 char).isSome
      let kept := Reading.bytes ['\\', char] rest
      match letter? char with
      | some byte => .bytes [byte] rest
      | none =>
          match dialect with
          | .echo =>
              if char = 'c' then .stop
              else if char = 'x' then hexadecimal rest kept
              else if char = '0' then octal (if (digit? 8 (rest.headD ' ')).isSome then rest else text)
              else if octalDigit then octal text
              else kept
          | .format => general char rest kept (octal text)
          | .argument => general char rest kept (octal (if char = '0' then rest else text))
          | .scriptFormat => if octalDigit then octal text else .bytes ['\\'] text
          | .scriptText =>
              if char = 'c' then .stop
              else if char = '0' ∧ (digit? 8 (rest.headD ' ')).isSome then octal rest
              else if octalDigit then octal text
              else .bytes ['\\'] text
where
  /-- A byte with a code in hexadecimal digits, two at most. -/
  hexadecimal (text : Bytes) (absent : Reading) : Reading :=
    match digits 16 2 0 0 text with
    | (0, _, _) => absent
    | (_, value, rest) => .bytes [Bytes.byte value] rest
  /-- The escapes that formats and arguments share. -/
  general (char : Char) (rest : Bytes) (kept octal : Reading) : Reading :=
    if char = 'c' then .stop
    else if char = 'x' then hexadecimal rest (.fault "missing hexadecimal number in escape")
    else if (digit? 8 char).isSome then octal
    else if char = '"' then .bytes ['"'] rest
    else if char = 'u' then universal 'u' 4 rest
    else if char = 'U' then universal 'U' 8 rest
    else kept

/-- A text with its escapes resolved, whether an escape ended it, and the fault that did. -/
structure Resolved where
  text : Bytes
  stopped : Bool
  fault? : Option String
  deriving DecidableEq, Repr

/-- Resolve at most `steps` bytes and escapes of a text. -/
def resolveIn (dialect : Dialect) (steps : Nat) (read : Bytes) (text : Bytes) : Resolved :=
  match steps, text with
  | steps + 1, '\\' :: rest =>
      if rest.isEmpty then ⟨read ++ ['\\'], false, none⟩
      else match Escape.read dialect rest with
        | .bytes bytes rest => resolveIn dialect steps (read ++ bytes) rest
        | .stop => ⟨read, true, none⟩
        | .fault message => ⟨read, true, some message⟩
  | steps + 1, char :: rest => resolveIn dialect steps (read ++ [char]) rest
  | _, _ => ⟨read, false, none⟩

/-- Resolve the escapes of a text. -/
def resolve (dialect : Dialect) (text : Bytes) : Resolved :=
  resolveIn dialect text.length [] text

end CommandShell.Host.Escape
