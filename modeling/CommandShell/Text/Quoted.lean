import CommandShell.Text.Unprintable

/-!
Quoted texts: every character of a quoted text is printable, and nothing in it ends the quotes early.
-/

namespace CommandShell.Text.Quoted

/-- A lower-case hexadecimal digit. -/
def hexDigit (value : Nat) : Char := Nat.digitChar (value % 16)

/-- A number written with exactly `width` hexadecimal digits. -/
def hex : Nat → Nat → List Char
  | 0, _ => []
  | width + 1, value => hex width (value / 16) ++ [hexDigit value]

/-- An apostrophe quotes a text, unless the text has apostrophes and no quotation mark. -/
def mark (text : List Char) : Char :=
  if text.contains '\'' && !text.contains '"' then '"' else '\''

/-- The mark and the backslash get a backslash, and an unprintable character gets its code. -/
def escape (mark char : Char) : List Char :=
  if char = mark ∨ char = '\\' then ['\\', char]
  else if char = '\t' then ['\\', 't']
  else if char = '\n' then ['\\', 'n']
  else if char = '\r' then ['\\', 'r']
  else if isPrintable char then [char]
  else if char.toNat < 0x100 then '\\' :: 'x' :: hex 2 char.toNat
  else if char.toNat < 0x10000 then '\\' :: 'u' :: hex 4 char.toNat
  else '\\' :: 'U' :: hex 8 char.toNat

/-- The quoted form of a text. -/
def encode (text : List Char) : List Char :=
  mark text :: text.flatMap (escape (mark text)) ++ [mark text]

end CommandShell.Text.Quoted

namespace CommandShell

/-- The quoted form of a string. -/
def quoted (text : String) : String := String.ofList (Text.Quoted.encode text.toList)

/-- Quoted words between round brackets; a single word keeps a comma after it. -/
def quotedTuple : List String → String
  | [word] => "(" ++ quoted word ++ ",)"
  | words => "(" ++ ", ".intercalate (words.map quoted) ++ ")"

end CommandShell
