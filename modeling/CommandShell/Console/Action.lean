import CommandShell.Console.Action.Value

/-!
The parameters of an action tag: the name of an action, a value between round brackets, or both.
-/

namespace CommandShell.Action

/-- Why a text stands for no value. -/
inductive Problem where
  | flaw (flaw : Flaw)
  | misfit (misfit : Misfit)
  /-- No value has a character zero in its text. -/
  | nullCharacter
  deriving DecidableEq, Repr

/-- The text that names a problem. -/
def Problem.message : Problem → String
  | .flaw found => found.message
  | .misfit found => found.message
  | .nullCharacter => "source code string cannot contain null bytes"

/-- What keeps a text from being a value, if anything does. -/
def problem? (text : List Char) : Option Problem :=
  if text.contains (Char.ofNat 0) then some .nullCharacter
  else match parseValue (text.dropWhile [' ', '\t'].contains) with
  | .error flaw => some (.flaw flaw)
  | .ok (tree :: _) => match tree.value with
    | .ok _ => none
    | .error misfit => some (.misfit misfit)
  | .ok [] => none

/-- The value in parameters that may name an action before it. Without a value it is the empty one. -/
def valueText (parameters : List Char) : List Char :=
  let rest := parameters.dropWhile fun char => Text.isWordChar char || char == '.'
  match rest, rest.getLast? with
  | [], _ => "()".toList
  | '(' :: _, some ')' => if rest.contains '\n' then parameters else rest
  | _, _ => parameters

end CommandShell.Action
