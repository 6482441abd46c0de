import CommandShell.Text.CaseTable

/-!
Lower and upper case of a text. One character may become several, and a capital sigma becomes a
final sigma where it ends a word.
-/

namespace CommandShell.Text

/-- The character a table row gives for a code point. -/
def mapped? (rows : List CaseRow) (char : Char) : Option Char :=
  (rows.findSome? (·.image? char.toNat)).map Char.ofNat

/-- The nearest character that is not skipped is a letter with a case. -/
def meetsLetter (text : List Char) : Bool :=
  match text.dropWhile fun char => covers caseIgnorableRanges char.toNat with
  | [] => false
  | char :: _ => covers casedRanges char.toNat

/-- The lower case of one character, given the characters before it, nearest first, and after it. -/
def lowerAt (before : List Char) (char : Char) (after : List Char) : List Char :=
  if char = 'Σ' then
    if meetsLetter before && !meetsLetter after then ['ς'] else ['σ']
  else if char = 'İ' then ['i', '\u0307']
  else [(mapped? lowerRows char).getD char]

/-- The lower case of a text that follows the characters of `before`, nearest first. -/
def lowerAfter (before : List Char) : List Char → List Char
  | [] => []
  | char :: after => lowerAt before char after ++ lowerAfter (char :: before) after

/-- The lower case of a whole text. -/
def lower (text : List Char) : List Char := lowerAfter [] text

/-- The upper case of one character does not depend on its neighbours. -/
def upperOf (char : Char) : List Char :=
  match upperExpansions.find? (·.1 == char.toNat) with
  | some expansion => expansion.2.map Char.ofNat
  | none => [(mapped? upperRows char).getD char]

/-- The upper case of a whole text. -/
def upper (text : List Char) : List Char := text.flatMap upperOf

end CommandShell.Text

namespace CommandShell

/-- A string in lower case. -/
def lowerCase (text : String) : String := String.ofList (Text.lower text.toList)

/-- A string in upper case. -/
def upperCase (text : String) : String := String.ofList (Text.upper text.toList)

end CommandShell
