import CommandShell.Host.Bytes
import CommandShell.Text.Unprintable

/-!
How programs of the host write a text in a message: between quotes, or as a script would have to write it.
Characters that cannot be shown are written as escapes.
-/

namespace CommandShell.Host.Quoting

/-- Characters that only show as a blank or not at all, and those without a fixed meaning. A message shows
them all the same. -/
def quiet : List (Nat × Nat) := [
  (0xA0, 0xA0), (0xAD, 0xAD), (0x600, 0x605), (0x61C, 0x61C), (0x6DD, 0x6DD), (0x70F, 0x70F),
  (0x890, 0x891), (0x8E2, 0x8E2), (0x1680, 0x1680), (0x180E, 0x180E), (0x2000, 0x200F),
  (0x202A, 0x202F), (0x205F, 0x2064), (0x2066, 0x206F), (0x3000, 0x3000), (0xE000, 0xF8FF),
  (0xFEFF, 0xFEFF), (0xFFF9, 0xFFFB), (0x110BD, 0x110BD), (0x110CD, 0x110CD), (0x1BCA0, 0x1BCA3),
  (0x1D173, 0x1D17A), (0xE0001, 0xE0001), (0xE0020, 0xE007F), (0xF0000, 0xFFFFD), (0x100000, 0x10FFFD)]

/-- Whether a message shows a character as it is. -/
def isShown (char : Char) : Bool := Text.isPrintable char || Text.covers quiet char.toNat

/-- A character of a text with its bytes, or a byte that belongs to no character. -/
structure Symbol where
  char? : Option Char
  bytes : Bytes
  deriving DecidableEq, Repr

/-- The symbols of a text, at most `steps` of them. -/
def symbols : Nat → Bytes → List Symbol
  | _, [] => []
  | 0, _ => []
  | steps + 1, byte :: rest =>
      match Bytes.first? (byte :: rest) with
      | some (char, size) => ⟨some char, (byte :: rest).take size⟩ :: symbols steps (rest.drop (size - 1))
      | none => ⟨none, [byte]⟩ :: symbols steps rest

/-- Whether a message shows a symbol as it is. -/
def Symbol.isShown (symbol : Symbol) : Bool := symbol.char?.any Quoting.isShown

/-- The letter of a byte that has an escape of its own. -/
def escapeLetter? : Char → Option Char
  | '\x07' => some 'a'
  | '\x08' => some 'b'
  | '\x0c' => some 'f'
  | '\n' => some 'n'
  | '\r' => some 'r'
  | '\t' => some 't'
  | '\x0b' => some 'v'
  | _ => none

/-- A byte as an escape. -/
def escaped (byte : Char) : Bytes :=
  match escapeLetter? byte with
  | some letter => ['\\', letter]
  | none =>
      let digit (weight : Nat) : Char := Char.ofNat ('0'.toNat + byte.toNat / weight % 8)
      ['\\', digit 64, digit 8, digit 1]

/-- A text between quotes. -/
def quoted (text : Bytes) : Bytes :=
  Bytes.ofString "‘" ++ (symbols text.length text).flatMap (fun symbol =>
    if symbol.char? = some '\\' ∨ symbol.char? = some '’' then '\\' :: symbol.bytes
    else if symbol.isShown then symbol.bytes
    else symbol.bytes.flatMap escaped) ++ Bytes.ofString "’"

/-- Characters that mean something to a script wherever they stand. -/
def special : List Char :=
  ['!', '"', '$', '&', '(', ')', '*', ';', '<', '=', '>', '[', '^', '\x60', '|', '?', '\\']

/-- Whether a text can stand in a script as it is. -/
def isPlain (text : Bytes) : Bool :=
  !text.isEmpty && !(special ++ ['\'', ' ']).any text.contains && text.head? != some '#' &&
    text.head? != some '~' && text != ['\x7b'] && text != ['\x7d'] &&
    (symbols text.length text).all Symbol.isShown

/-- Whether a text can stand in double quotes as it is. -/
def fitsDoubleQuotes (text : Bytes) : Bool :=
  !special.any text.contains && (symbols text.length text).all Symbol.isShown &&
    !(text.drop 1).any ['#', '~'].contains && !(1 < text.length && text.any ['\x7b', '\x7d'].contains)

/-- The symbols of a text in single quotes, with escapes outside of them. `inEscapes` tells whether escapes
are open. -/
def mixed (inEscapes : Bool) : List Symbol → Bytes
  | [] => []
  | symbol :: rest =>
      if symbol.isShown then
        let closing : Bytes := if inEscapes then ['\'', '\''] else []
        if symbol.char? = some '\'' then ['\'', '\\', '\'', '\''] ++ mixed false rest
        else closing ++ symbol.bytes ++ mixed false rest
      else
        let opening : Bytes := if inEscapes then [] else ['\'', '$', '\'']
        opening ++ symbol.bytes.flatMap escaped ++ mixed true rest

/-- A text as a script would write it. -/
def scriptWord (text : Bytes) : Bytes :=
  if isPlain text then text
  else if text.contains '\'' && fitsDoubleQuotes text then '"' :: text ++ ['"']
  else '\'' :: mixed false (symbols text.length text) ++ ['\'']

/-- The name of a document in a message, where a colon comes after it. -/
def documentName (name : Bytes) : Bytes :=
  if isPlain name && name.contains ':' then '\'' :: name ++ ['\''] else scriptWord name

end CommandShell.Host.Quoting
