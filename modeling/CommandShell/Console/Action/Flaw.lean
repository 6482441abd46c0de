import CommandShell.Number.Literal
import CommandShell.Text.Unprintable

/-!
What can be wrong with the text of a value: with its tokens, with the order of its tokens, and with
the quoted texts in it.
-/

namespace CommandShell.Action

/-- What is wrong with the text of a value. -/
inductive Flaw where
  | neverClosed (bracket : Char)
  | unmatched (bracket : Char)
  | mismatched (closing opening : Char) (line? : Option Nat)
  | tooDeep
  | openText (line : Nat)
  | openLongText (line : Nat)
  | badNumber (base : String)
  | badDigit (digit : Char) (base : String)
  | leadingZeros
  | tooManyDigits (count : Nat)
  | straySlash
  | unexpectedEnd
  | unprintable (char : Char)
  | strange (char : Char)
  | strayMargin
  | mixedMargins
  | deepMargins
  | unexpectedIndent
  | unexpectedDedent
  | invalid
  | missingComma
  | missingElse
  | missingBrackets (name : String)
  | missingColon
  | missingEntry
  | missingDefault
  | assignment
  | cannotAssign (target : String)
  | cannotAssignHere (target : String)
  | cannotName (target : String)
  | keywordTarget
  | starred
  | doubleStarred
  | starredEntry
  | starredClause
  | doubleStarredClause
  | openClause
  | openGenerator
  | unpackingAfterUnpacking
  | valueAfterKeyword
  | valueAfterUnpacking
  | defaultBeforeParameter
  | bracketedParameters
  | leadingDivider
  | repeatedDivider
  | lateDivider
  | missingDividerComma
  | bareStar
  | starDefault
  | repeatedStar
  | doubleStarDefault
  | afterDoubleStar
  | mixedTexts
  | wideBytes
  | badBytesEscape (place : Nat)
  | badEscape (start finish : Nat) (problem : String)
  | singleBrace
  | deepFields
  | slashInField
  | commentInField
  | openTextInField
  | deepBracketsInField
  | unmatchedInField (bracket : Char)
  | mismatchedInField (closing opening : Char)
  | unclosedField
  | emptyField
  | fieldBefore (mark : Char)
  | badConversion
  | embedded (flaw : Flaw)
  deriving DecidableEq, Repr

/-- The code of a character, with at least four digits. -/
def codeText (char : Char) : String :=
  let digits := (Nat.toDigits 16 char.toNat).map Char.toUpper
  String.ofList (List.replicate (4 - digits.length) '0' ++ digits)

/-- Two brackets that do not belong together. -/
def mismatchText (closing opening : Char) : String :=
  "closing parenthesis '" ++ closing.toString ++ "' does not match opening parenthesis '" ++
    opening.toString ++ "'"

/-- What starts the messages about fields in texts. -/
def fieldText (message : String) : String := "f-string: " ++ message

/-- The text that names a flaw. -/
def Flaw.message : Flaw → String
  | .neverClosed bracket => "'" ++ bracket.toString ++ "' was never closed"
  | .unmatched bracket => "unmatched '" ++ bracket.toString ++ "'"
  | .mismatched closing opening none => mismatchText closing opening
  | .mismatched closing opening (some line) =>
      mismatchText closing opening ++ " on line " ++ toString line
  | .tooDeep => "too many nested parentheses"
  | .openText line => "unterminated string literal (detected at line " ++ toString line ++ ")"
  | .openLongText line =>
      "unterminated triple-quoted string literal (detected at line " ++ toString line ++ ")"
  | .badNumber base => "invalid " ++ base ++ " literal"
  | .badDigit digit base => "invalid digit '" ++ digit.toString ++ "' in " ++ base ++ " literal"
  | .leadingZeros =>
      "leading zeros in decimal integer literals are not permitted; " ++
        "use an 0o prefix for octal integers"
  | .tooManyDigits count =>
      Literal.lengthText count ++
        " - Consider hexadecimal for huge integer literals to avoid decimal conversion limits."
  | .straySlash => "unexpected character after line continuation character"
  | .unexpectedEnd => "unexpected EOF while parsing"
  | .unprintable char => "invalid non-printable character U+" ++ codeText char
  | .strange char => "invalid character '" ++ char.toString ++ "' (U+" ++ codeText char ++ ")"
  | .strayMargin => "unindent does not match any outer indentation level"
  | .mixedMargins => "inconsistent use of tabs and spaces in indentation"
  | .deepMargins => "too many levels of indentation"
  | .unexpectedIndent => "unexpected indent"
  | .unexpectedDedent => "unexpected unindent"
  | .invalid => "invalid syntax"
  | .missingComma => "invalid syntax. Perhaps you forgot a comma?"
  | .missingElse => "expected 'else' after 'if' expression"
  | .missingBrackets name =>
      "Missing parentheses in call to '" ++ name ++ "'. Did you mean " ++ name ++ "(...)?"
  | .missingColon => "':' expected after dictionary key"
  | .missingEntry => "expression expected after dictionary key and ':'"
  | .missingDefault => "expected default value expression"
  | .assignment => "invalid syntax. Maybe you meant '==' or ':=' instead of '='?"
  | .cannotAssign target => "cannot assign to " ++ target
  | .cannotAssignHere target =>
      "cannot assign to " ++ target ++ " here. Maybe you meant '==' instead of '='?"
  | .cannotName target => "cannot use assignment expressions with " ++ target
  | .keywordTarget => "expression cannot contain assignment, perhaps you meant \"==\"?"
  | .starred => "cannot use starred expression here"
  | .doubleStarred => "cannot use double starred expression here"
  | .starredEntry => "cannot use a starred expression in a dictionary value"
  | .starredClause => "iterable unpacking cannot be used in comprehension"
  | .doubleStarredClause => "dict unpacking cannot be used in dict comprehension"
  | .openClause => "did you forget parentheses around the comprehension target?"
  | .openGenerator => "Generator expression must be parenthesized"
  | .unpackingAfterUnpacking => "iterable argument unpacking follows keyword argument unpacking"
  | .valueAfterKeyword => "positional argument follows keyword argument"
  | .valueAfterUnpacking => "positional argument follows keyword argument unpacking"
  | .defaultBeforeParameter => "non-default argument follows default argument"
  | .bracketedParameters => "Lambda expression parameters cannot be parenthesized"
  | .leadingDivider => "at least one argument must precede /"
  | .repeatedDivider => "/ may appear only once"
  | .lateDivider => "/ must be ahead of *"
  | .missingDividerComma => "expected comma between / and *"
  | .bareStar => "named arguments must follow bare *"
  | .starDefault => "var-positional argument cannot have default value"
  | .repeatedStar => "* argument may appear only once"
  | .doubleStarDefault => "var-keyword argument cannot have default value"
  | .afterDoubleStar => "arguments cannot follow var-keyword argument"
  | .mixedTexts => "cannot mix bytes and nonbytes literals"
  | .wideBytes => "bytes can only contain ASCII literal characters"
  | .badBytesEscape place => "(value error) invalid \\x escape at position " ++ toString place
  | .badEscape start finish problem =>
      "(unicode error) 'unicodeescape' codec can't decode bytes in position " ++ toString start ++
        "-" ++ toString finish ++ ": " ++ problem
  | .singleBrace => fieldText "single '\x7d' is not allowed"
  | .deepFields => fieldText "expressions nested too deeply"
  | .slashInField => "f-string expression part cannot include a backslash"
  | .commentInField => "f-string expression part cannot include '#'"
  | .openTextInField => fieldText "unterminated string"
  | .deepBracketsInField => fieldText "too many nested parenthesis"
  | .unmatchedInField bracket => fieldText ("unmatched '" ++ bracket.toString ++ "'")
  | .mismatchedInField closing opening => fieldText (mismatchText closing opening)
  | .unclosedField => fieldText "expecting '\x7d'"
  | .emptyField => fieldText "empty expression not allowed"
  | .fieldBefore mark => fieldText ("expression required before '" ++ mark.toString ++ "'")
  | .badConversion => fieldText "invalid conversion character: expected 's', 'r', or 'a'"
  | .embedded flaw => fieldText flaw.message

end CommandShell.Action
