import CommandShell.Console.Colour
import CommandShell.Text.LetterCase
import CommandShell.Text.Words

/-!
Styles as words: traits, a colour, a colour behind the text and a link. Two texts for the same style
have the same normal form.
-/

namespace CommandShell

/-- A style. The trait that was set last is the first one, and a trait can be set to off. -/
structure Style where
  traits : List (String × Bool)
  colour? : Option String
  background? : Option String
  link? : Option String
  deriving DecidableEq, Repr

namespace Style

/-- A style that changes nothing. -/
def plain : Style := ⟨[], none, none, none⟩

/-- The traits in order, each with its short names. -/
def traitNames : List (String × List String) := [
  ("bold", ["b"]), ("dim", ["d"]), ("italic", ["i"]), ("underline", ["u"]), ("blink", []),
  ("blink2", []), ("reverse", ["r"]), ("conceal", ["c"]), ("strike", ["s"]), ("underline2", ["uu"]),
  ("frame", []), ("encircle", []), ("overline", ["o"])]

/-- The trait that a word names. -/
def trait? (word : String) : Option String :=
  (traitNames.find? fun trait => trait.1 == word || trait.2.contains word).map (·.1)

/-- A style with the words that follow. None when some word means nothing. -/
def withWords (style : Style) : List String → Except Failure (Option Style)
  | [] => .ok (some style)
  | word :: rest =>
      let word := lowerCase word
      if word = "on" then
        match rest with
        | [] => .ok none
        | colour :: rest => do
            let colour := lowerCase colour
            if ← Colour.isColour colour then withWords { style with background? := some colour } rest
            else return none
      else if word = "not" then
        match rest with
        | [] => .ok none
        | name :: rest =>
            match trait? name with
            | some trait => withWords { style with traits := (trait, false) :: style.traits } rest
            | none => .ok none
      else if word = "link" then
        match rest with
        | [] => .ok none
        | target :: rest => withWords { style with link? := some target } rest
      else match trait? word with
        | some trait => withWords { style with traits := (trait, true) :: style.traits } rest
        | none => do
            if ← Colour.isColour word then withWords { style with colour? := some word } rest
            else return none

/-- The words of a style: traits in order, then the colours and the link. -/
def words (style : Style) : List String :=
  let traits := traitNames.filterMap fun trait => (style.traits.lookup trait.1).map fun isOn =>
    if isOn then trait.1 else "not " ++ trait.1
  traits ++ style.colour?.toList ++ (style.background?.map ("on " ++ ·)).toList ++
    (style.link?.map ("link " ++ ·)).toList

/-- The text of a style. -/
def text (style : Style) : String :=
  if style.words.isEmpty then "none" else " ".intercalate style.words

/-- The normal form of a text for a style. A text that means no style is kept in lower case. -/
def normalForm (text : String) : Except Failure String := do
  let trimmed := String.ofList (Text.trim Text.isBlank text.toList)
  if trimmed = "none" then return "none"
  match ← plain.withWords (wordsOf text) with
  | some style => return style.text
  | none => return lowerCase trimmed

/-- The failure of a text that cannot be read as a style, where a text without meaning is none. -/
def failure? (text : String) : Option Failure :=
  match normalForm text with
  | .ok _ => none
  | .error failure => some failure

end Style

end CommandShell
