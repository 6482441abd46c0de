/-!
Texts as programs of the host see them: as bytes. A byte is a character below 256, so that bytes are
written and compared like characters.
-/

namespace CommandShell.Host

/-- A text of bytes. -/
abbrev Bytes := List Char

namespace Bytes

/-- Whether a text comes no later than another one, byte for byte. -/
def precedes (first second : Bytes) : Bool :=
  !second.lex first fun one other => decide (one < other)

/-- A number as a byte. -/
def byte (value : Nat) : Char := Char.ofNat (value % 256)

/-- The bytes of a string. -/
def ofString (text : String) : Bytes := text.toUTF8.toList.map fun code => byte code.toNat

/-- The character that stands for bytes that encode none. -/
def replacement : Char := '\uFFFD'

/-- What the first byte of a character says: how many bytes follow, the bits it gives, and the range
of the byte after it. -/
def lead? (char : Char) : Option (Nat × Nat × Nat × Nat) :=
  let code := char.toNat
  if 0xC2 ≤ code ∧ code ≤ 0xDF then some (1, code - 0xC0, 0x80, 0xBF)
  else if code = 0xE0 then some (2, 0, 0xA0, 0xBF)
  else if code = 0xED then some (2, 0xD, 0x80, 0x9F)
  else if 0xE1 ≤ code ∧ code ≤ 0xEF then some (2, code - 0xE0, 0x80, 0xBF)
  else if code = 0xF0 then some (3, 0, 0x90, 0xBF)
  else if 0xF1 ≤ code ∧ code ≤ 0xF3 then some (3, code - 0xF0, 0x80, 0xBF)
  else if code = 0xF4 then some (3, 4, 0x80, 0x8F)
  else none

/-- The characters of bytes, while `missing` bytes of a character with the bits `bits` are to come, the
next one between `least` and `most`. -/
def decodeFrom (missing bits least most : Nat) : Bytes → List Char
  | [] => if missing = 0 then [] else [replacement]
  | char :: rest =>
      match missing with
      | 0 => start char rest
      | more + 1 =>
          if least ≤ char.toNat ∧ char.toNat ≤ most then
            let bits := 64 * bits + (char.toNat - 0x80)
            if more = 0 then Char.ofNat bits :: decodeFrom 0 0 0x80 0xBF rest
            else decodeFrom more bits 0x80 0xBF rest
          else replacement :: start char rest
where
  /-- The characters of bytes that begin with a new character. -/
  start (char : Char) (rest : Bytes) : List Char :=
    if char.toNat < 0x80 then char :: decodeFrom 0 0 0x80 0xBF rest
    else match lead? char with
      | some (missing, bits, least, most) => decodeFrom missing bits least most rest
      | none => replacement :: decodeFrom 0 0 0x80 0xBF rest

/-- The character that a text begins with, and the number of its bytes. -/
def first? : Bytes → Option (Char × Nat)
  | [] => none
  | char :: rest =>
      if char.toNat < 0x80 then some (char, 1)
      else match lead? char with
        | none => none
        | some (missing, bits, least, most) =>
            let follows (byte : Char) : Bool := decide (0x80 ≤ byte.toNat) && decide (byte.toNat ≤ 0xBF)
            let more := rest.take missing
            if more.length = missing && more.all follows &&
                more.head?.any (fun byte => decide (least ≤ byte.toNat) && decide (byte.toNat ≤ most)) then
              some (Char.ofNat (more.foldl (fun bits byte => 64 * bits + (byte.toNat - 0x80)) bits),
                missing + 1)
            else none

/-- The string that bytes encode. -/
def toText (bytes : Bytes) : String := String.ofList (decodeFrom 0 0 0x80 0xBF bytes)

/-- The decimal digits of a number. -/
def ofNat (number : Nat) : Bytes := Nat.toDigits 10 number

/-- The decimal digits of a number, after a minus sign when it is negative. -/
def ofInt (number : Int) : Bytes :=
  if number < 0 then '-' :: ofNat number.natAbs else ofNat number.natAbs

/-- A lower-case letter of a text as a capital. -/
def upper (text : Bytes) : Bytes := text.map Char.toUpper

/-- Texts with a text between each two. -/
def join (separator : Bytes) (texts : List Bytes) : Bytes := separator.intercalate texts

end Bytes

end CommandShell.Host
