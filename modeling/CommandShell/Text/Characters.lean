/-!
Classes of characters: ranges of code points, blanks, and the decimal digits of every script. Texts lose
the characters of a class at their ends.
-/

namespace CommandShell.Text

/-- A table covers a code point when one of its ranges holds it, ends included. -/
def covers (table : List (Nat × Nat)) (code : Nat) : Bool :=
  table.any fun range => decide (range.1 ≤ code ∧ code ≤ range.2)

/-- The code points of the blank characters. -/
def blanks : List (Nat × Nat) := [
  (0x9, 0xD), (0x1C, 0x20), (0x85, 0x85), (0xA0, 0xA0), (0x1680, 0x1680), (0x2000, 0x200A),
  (0x2028, 0x2029), (0x202F, 0x202F), (0x205F, 0x205F), (0x3000, 0x3000)]

/-- A blank separates words. -/
def isBlank (char : Char) : Bool := covers blanks char.toNat

/-- A number may stand between blanks, the four information separators excepted. -/
def isNumberBlank (char : Char) : Bool :=
  isBlank char && !(decide (0x1C ≤ char.toNat ∧ char.toNat ≤ 0x1F))

/-- The code points of the zeros. Each script lists its ten digits in a row, so the place of its zero is
enough. -/
def zeros : List Nat := [
  0x30, 0x660, 0x6F0, 0x7C0, 0x966, 0x9E6, 0xA66, 0xAE6, 0xB66, 0xBE6, 0xC66, 0xCE6, 0xD66, 0xDE6,
  0xE50, 0xED0, 0xF20, 0x1040, 0x1090, 0x17E0, 0x1810, 0x1946, 0x19D0, 0x1A80, 0x1A90, 0x1B50,
  0x1BB0, 0x1C40, 0x1C50, 0xA620, 0xA8D0, 0xA900, 0xA9D0, 0xA9F0, 0xAA50, 0xABF0, 0xFF10, 0x104A0,
  0x10D30, 0x11066, 0x110F0, 0x11136, 0x111D0, 0x112F0, 0x11450, 0x114D0, 0x11650, 0x116C0,
  0x11730, 0x118E0, 0x11950, 0x11C50, 0x11D50, 0x11DA0, 0x16A60, 0x16AC0, 0x16B50, 0x1D7CE,
  0x1D7D8, 0x1D7E2, 0x1D7EC, 0x1D7F6, 0x1E140, 0x1E2F0, 0x1E950, 0x1FBF0]

/-- The value of a decimal digit, and none for any other character. -/
def digit? (char : Char) : Option Nat :=
  (zeros.find? fun first => decide (first ≤ char.toNat ∧ char.toNat < first + 10)).map
    (char.toNat - ·)

/-- Every character before the first one to keep is dropped. -/
def trimStart (drop : Char → Bool) (text : List Char) : List Char := text.dropWhile drop

/-- Every character after the last one to keep is dropped. -/
def trimEnd (drop : Char → Bool) (text : List Char) : List Char :=
  (text.reverse.dropWhile drop).reverse

/-- Both ends lose their dropped characters, and the inside stays as it is. -/
def trim (drop : Char → Bool) (text : List Char) : List Char :=
  trimEnd drop (trimStart drop text)

end CommandShell.Text
