import CommandShell.Console.EmojiTable
import CommandShell.Text.Characters
import CommandShell.Text.Columns
import CommandShell.Text.LetterCase

/-!
Emoji written by name between colons.
-/

namespace CommandShell.Emoji

/-- A name without a given ending. -/
def withoutEnding? (ending name : List Char) : Option (List Char) :=
  if ending.isSuffixOf name then some (name.take (name.length - ending.length)) else none

/-- A name, and the selector that its ending asks for. -/
def selection (name : List Char) : List Char × List Char :=
  match withoutEnding? "-emoji".toList name with
  | some plain => (plain, [Text.emojiSelector])
  | none =>
      match withoutEnding? "-text".toList name with
      | some plain => (plain, [Text.textSelector])
      | none => (name, [])

/-- What stands for a name between two colons. A name that is not known stays as it was written. -/
def shown (name : List Char) : List Char :=
  let (plain, selector) := selection name
  match table.lookup (String.ofList (Text.lower plain)) with
  | some emoji => emoji.toList ++ selector
  | none => ':' :: name ++ [':']

/-- Replace names after an open colon and the characters of `name?` read since. A blank cannot be
part of a name. -/
def replaceFrom (name? : Option (List Char)) : List Char → List Char
  | [] => match name? with
    | none => []
    | some name => ':' :: name
  | char :: rest =>
      match name? with
      | none => if char = ':' then replaceFrom (some []) rest else char :: replaceFrom none rest
      | some name =>
          if char = ':' then shown name ++ replaceFrom none rest
          else if Text.isBlank char then ':' :: name ++ char :: replaceFrom none rest
          else replaceFrom (some (name ++ [char])) rest

/-- A text with its emoji. -/
def replace (text : List Char) : List Char := replaceFrom none text

end CommandShell.Emoji
