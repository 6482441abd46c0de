import CommandShell.Console.Action.Flaw
import CommandShell.Text.NameTable

/-!
The tokens of a value: names, numbers, quoted texts and signs, the ends of its lines, and the steps
of the margin where a line starts further in or out than the one before.
-/

namespace CommandShell.Action

/-- What a token is. -/
inductive Kind where
  | name
  | number
  | quoted
  /-- A sign or a word with a meaning of its own. -/
  | fixed
  | newLine
  | indent
  | dedent
  | ending
  deriving DecidableEq, Repr

/-- A token: its text, how many brackets are open after it, and the line where it starts. -/
structure Token where
  kind : Kind
  text : List Char
  depth : Nat
  line : Nat
  deriving DecidableEq, Repr

/-- How the tokens of a text end. -/
inductive Stop where
  | finished
  /-- A flaw that counts even when nobody reads this far. -/
  | loud (flaw : Flaw)
  /-- A flaw for whoever reads this far, with the innermost open bracket and its line. -/
  | silent (flaw : Flaw) (opened? : Option (Char × Nat))
  deriving DecidableEq, Repr

/-- Words with a meaning of their own. -/
def fixedWords : List String := [
  "False", "None", "True", "and", "as", "assert", "async", "await", "break", "class", "continue", "def",
  "del", "elif", "else", "except", "finally", "for", "from", "global", "if", "import", "in", "is",
  "lambda", "nonlocal", "not", "or", "pass", "raise", "return", "try", "while", "with", "yield"]

/-- The signs of more than one character, the longest first. -/
def longSigns : List String := [
  "...", "**=", "//=", ">>=", "<<=", "**", "//", ">>", "<<", "<=", ">=", "==", "!=", "<>", "->", ":=",
  "+=", "-=", "*=", "/=", "%=", "&=", "|=", "^=", "@="]

/-- At most this many brackets are open at a time. -/
def bracketLimit : Nat := 200

/-- At most this many margins are inside each other. -/
def marginLimit : Nat := 100

/-- Every line ends with a single line end. -/
def withLineEnds : List Char → List Char
  | '\r' :: '\n' :: rest => '\n' :: withLineEnds rest
  | '\r' :: rest => '\n' :: withLineEnds rest
  | char :: rest => char :: withLineEnds rest
  | [] => []

/-! ### Numbers -/

/-- A character of a name, as far as tokens are cut: every character beyond the plain ones counts. -/
def isNameChar (char : Char) : Bool :=
  char.isAlphanum || char == '_' || decide (0x80 ≤ char.toNat)

/-- Nothing but these words may follow a number directly. -/
def followers : List String := ["and", "else", "for", "or", "not"]

/-- Whether a word that may follow a number directly starts here. -/
def startsFollower (rest : List Char) : Bool :=
  ["if", "in", "is"].any (fun word => word.toList.isPrefixOf rest) ||
    followers.any fun word => word.toList.isPrefixOf rest &&
      ((rest.drop word.length).head?.all (!isNameChar ·))

/-- The rest after a number that must not run into a word. -/
def endNumber (base : String) (rest : List Char) : Except Flaw (List Char) :=
  match rest with
  | [] => .ok rest
  | char :: _ =>
      if isNameChar char && char.toNat < 0x80 && !startsFollower rest then .error (.badNumber base)
      else .ok rest

/-- The rest after digits with single underscores between them. -/
def afterDigits (base : String) (isDigit : Char → Bool) : List Char → Except Flaw (List Char)
  | '_' :: char :: rest =>
      if isDigit char then afterDigits base isDigit rest else .error (.badNumber base)
  | ['_'] => .error (.badNumber base)
  | char :: rest => if isDigit char then afterDigits base isDigit rest else .ok (char :: rest)
  | [] => .ok []

/-- The rest after an imaginary sign, or after a number without one. -/
def afterSign (rest : List Char) : Except Flaw (List Char) :=
  match rest with
  | 'j' :: rest => endNumber "imaginary" rest
  | 'J' :: rest => endNumber "imaginary" rest
  | rest => endNumber "decimal" rest

/-- The rest after an exponent, where there is one. -/
def afterExponent (rest : List Char) : Except Flaw (List Char) :=
  match rest with
  | mark :: more =>
      if mark = 'e' ∨ mark = 'E' then
        match more with
        | sign :: digit :: _ =>
            if sign = '+' ∨ sign = '-' then
              if digit.isDigit then signed (more.drop 1) else .error (.badNumber "decimal")
            else if sign.isDigit then signed more
            else endNumber "decimal" rest
        | [digit] =>
            if digit = '+' ∨ digit = '-' then .error (.badNumber "decimal")
            else if digit.isDigit then signed more
            else endNumber "decimal" rest
        | [] => endNumber "decimal" rest
      else afterSign rest
  | [] => .ok []
where
  /-- The rest after the digits of an exponent. -/
  signed (digits : List Char) : Except Flaw (List Char) := do
    afterSign (← afterDigits "decimal" Char.isDigit digits)

/-- The rest after a decimal point. -/
def afterPoint (rest : List Char) : Except Flaw (List Char) :=
  match rest with
  | digit :: _ => do
      if digit.isDigit then afterExponent (← afterDigits "decimal" Char.isDigit rest)
      else afterExponent rest
  | [] => .ok []

/-- A digit in base sixteen. -/
def isHexDigit (char : Char) : Bool :=
  char.isDigit || decide ('a' ≤ char ∧ char ≤ 'f') || decide ('A' ≤ char ∧ char ≤ 'F')

/-- The rest after a number whose first characters name its base. -/
def afterBased (base : String) (isDigit : Char → Bool) (rest : List Char) :
    Except Flaw (List Char) :=
  match rest with
  | '_' :: digit :: more =>
      if isDigit digit then further more else halt digit
  | digit :: more => if isDigit digit then further more else halt digit
  | [] => .error (.badNumber base)
where
  /-- The flaw of a character that is no digit. -/
  halt (char : Char) : Except Flaw (List Char) :=
    .error (if char.isDigit then .badDigit char base else .badNumber base)
  /-- The rest after more digits. -/
  further : List Char → Except Flaw (List Char)
    | '_' :: digit :: more => if isDigit digit then further more else halt digit
    | ['_'] => .error (.badNumber base)
    | digit :: more =>
        if isDigit digit then further more
        else if digit.isDigit then halt digit
        else endNumber base (digit :: more)
    | [] => .ok []

/-- The rest after zeros with single underscores between digits. -/
def afterZeros : List Char → Except Flaw (List Char)
  | '_' :: digit :: rest =>
      if !digit.isDigit then .error (.badNumber "decimal")
      else if digit = '0' then afterZeros rest
      else .ok (digit :: rest)
  | ['_'] => .error (.badNumber "decimal")
  | '0' :: rest => afterZeros rest
  | rest => .ok rest

/-- The rest after a decimal number with a zero in front, which must have a point or an exponent if other
digits follow. -/
def afterPadded (text : List Char) : Except Flaw (List Char) := do
  let rest ← afterZeros text
  let isPadded := rest.head?.any Char.isDigit
  let rest ← if isPadded then afterDigits "decimal" Char.isDigit rest else pure rest
  match rest with
  | '.' :: rest => afterPoint rest
  | rest =>
      if rest.head?.any ['e', 'E', 'j', 'J'].contains then afterExponent rest
      else if isPadded then throw .leadingZeros
      else endNumber "decimal" rest

/-- The rest after a number. -/
def afterNumber (text : List Char) : Except Flaw (List Char) :=
  match text with
  | '.' :: rest => afterPoint rest
  | '0' :: rest =>
      match rest with
      | [] => .ok []
      | mark :: digits =>
          if mark = 'x' ∨ mark = 'X' then afterBased "hexadecimal" isHexDigit digits
          else if mark = 'o' ∨ mark = 'O' then
            afterBased "octal" (fun char => decide ('0' ≤ char ∧ char ≤ '7')) digits
          else if mark = 'b' ∨ mark = 'B' then
            afterBased "binary" (fun char => char == '0' || char == '1') digits
          else afterPadded rest
  | text => do
      match ← afterDigits "decimal" Char.isDigit text with
      | '.' :: rest => afterPoint rest
      | rest => afterExponent rest

/-! ### Names and quoted texts -/

/-- The letters that may stand together before the quote of a text. -/
def textMarks : List String := ["r", "b", "u", "f", "br", "rb", "fr", "rf"]

/-- The flaw of a name with a character that no name has. -/
def nameFlaw? (name : List Char) : Option Flaw :=
  let wrong? := match name with
    | [] => none
    | first :: rest => if !Text.startsName first then some first else rest.find? (!Text.extendsName ·)
  wrong?.map strange
where
  /-- The flaw of a character that no token has. -/
  strange (char : Char) : Flaw := if Text.isPrintable char then .strange char else .unprintable char

/-- The rest after a quoted text on one line, and none when it does not end. -/
def afterText? (quote : Char) : List Char → Option (List Char)
  | [] => none
  | '\\' :: _ :: rest => afterText? quote rest
  | char :: rest =>
      if char = quote then some rest
      else if char = '\n' then none
      else afterText? quote rest

/-- The rest after a text between three quotes, and none when it does not end. -/
def afterLongText? (quote : Char) : List Char → Option (List Char)
  | [] => none
  | '\\' :: _ :: rest => afterLongText? quote rest
  | char :: rest =>
      if [quote, quote, quote].isPrefixOf (char :: rest) then some (rest.drop 2)
      else afterLongText? quote rest

/-- The line where a text on one line fails to end. -/
def openLine (line : Nat) : List Char → Nat
  | '\\' :: '\n' :: rest => openLine (line + 1) rest
  | '\\' :: _ :: rest => openLine line rest
  | '\n' :: _ => line
  | _ :: rest => openLine line rest
  | [] => line

/-- The rest after a text from its quote on. -/
def afterQuote (line : Nat) (quote : Char) (inside : List Char) : Except Flaw (List Char) :=
  if [quote, quote].isPrefixOf inside then
    match afterLongText? quote (inside.drop 2) with
    | some rest => .ok rest
    | none => .error (.openLongText (line + inside.count '\n'))
  else match afterText? quote inside with
    | some rest => .ok rest
    | none => .error (.openText (openLine line inside))

/-! ### Margins -/

/-- The two widths of a margin: tabs go to multiples of eight columns in the first, and count as one
column in the second. -/
abbrev Margin := Nat × Nat

/-- The start of a line: its margin, its number, and the rest after its blanks. A backslash joins the
next line, and the margin before the first one counts. -/
def lineStart (line : Nat) (joined : Nat) (margin : Margin) :
    List Char → Except Flaw (Margin × Nat × List Char)
  | ' ' :: rest => lineStart line joined (margin.1 + 1, margin.2 + 1) rest
  | '\t' :: rest => lineStart line joined ((margin.1 / 8 + 1) * 8, margin.2 + 1) rest
  | '\x0c' :: rest => lineStart line joined (0, 0) rest
  | '\\' :: '\n' :: [] => .error .unexpectedEnd
  | '\\' :: '\n' :: rest =>
      lineStart (line + 1) (if joined = 0 then margin.1 else joined) margin rest
  | '\\' :: _ => .error .straySlash
  | rest => .ok (if joined = 0 then margin else (joined, joined), line, rest)

/-- The margins after a line with a margin, and the steps to it. -/
def toMargin (margins : List Margin) (margin : Margin) : Except Flaw (List Margin × List Kind) :=
  let outer := margins.dropWhile fun other => decide (margin.1 < other.1)
  let (columns, others) := outer.headD (0, 0)
  if margin.1 = columns then
    if margin.2 = others then .ok (outer, List.replicate (margins.length - outer.length) .dedent)
    else .error .mixedMargins
  else if outer.length < margins.length then .error .strayMargin
  else if marginLimit ≤ margins.length + 1 then .error .deepMargins
  else if margin.2 ≤ others then .error .mixedMargins
  else .ok (margin :: margins, [.indent])

/-! ### Tokens -/

/-- Where the reading of tokens stands. -/
structure Spot where
  line : Nat
  opened : List (Char × Nat)
  margins : List Margin

/-- The tokens of a text, and how they end. `fresh` tells that a line starts here, and `steps` bounds the
number of tokens. -/
def tokensFrom (steps : Nat) (fresh : Bool) (spot : Spot) (text : List Char) : List Token × Stop :=
  match steps with
  | 0 => ([], .finished)
  | steps + 1 =>
      if fresh then
        match lineStart spot.line 0 (0, 0) text with
        | .error flaw => ([], openEnd spot flaw)
        | .ok (margin, line, rest) =>
            let spot := { spot with line }
            match rest with
            | '#' :: _ => emptyLine steps spot rest
            | '\n' :: _ => emptyLine steps spot rest
            | rest =>
                if !spot.opened.isEmpty then tokensFrom steps false spot rest
                else match toMargin spot.margins margin with
                  | .error flaw => ([], .silent flaw none)
                  | .ok (margins, changes) =>
                      let spot := { spot with margins }
                      let (tokens, stop) := tokensFrom steps false spot rest
                      (changes.map (fun kind => token spot kind []) ++ tokens, stop)
      else
        match text.dropWhile [' ', '\t', '\x0c'].contains with
        | '#' :: rest => tokensFrom steps false spot (rest.dropWhile (· ≠ '\n'))
        | [] =>
            if spot.opened.isEmpty then ([token spot .ending []], .finished)
            else ([], openEnd spot .unexpectedEnd)
        | '\n' :: rest =>
            let next := tokensFrom steps true { spot with line := spot.line + 1 } rest
            if spot.opened.isEmpty then (token spot .newLine ['\n'] :: next.1, next.2) else next
        | '\\' :: '\n' :: [] => ([], openEnd spot .unexpectedEnd)
        | '\\' :: '\n' :: rest => tokensFrom steps false { spot with line := spot.line + 1 } rest
        | '\\' :: _ => ([], openEnd spot .straySlash)
        | char :: rest =>
            match cut spot char rest with
            | .error flaw => ([], .loud flaw)
            | .ok (found, spot, rest) =>
                let (tokens, stop) := tokensFrom steps false spot rest
                (found :: tokens, stop)
where
  /-- A token at a spot. -/
  token (spot : Spot) (kind : Kind) (text : List Char) : Token :=
    ⟨kind, text, spot.opened.length, spot.line⟩
  /-- Go on after a line without tokens. -/
  emptyLine (steps : Nat) (spot : Spot) (rest : List Char) : List Token × Stop :=
    match rest.dropWhile (· ≠ '\n') with
    | _ :: rest => tokensFrom steps true { spot with line := spot.line + 1 } rest
    | [] => tokensFrom steps false spot []
  /-- The stop of a text that ends too early. -/
  openEnd (spot : Spot) (flaw : Flaw) : Stop :=
    match spot.opened.head? with
    | some (bracket, line) =>
        .silent (if flaw = .unexpectedEnd then .neverClosed bracket else flaw) (some (bracket, line))
    | none => .silent flaw none
  /-- The token that starts with a character, the spot after it, and the rest. -/
  cut (spot : Spot) (char : Char) (rest : List Char) : Except Flaw (Token × Spot × List Char) := do
    let text := char :: rest
    if char = '"' ∨ char = '\'' then return quotedText spot text (← afterQuote spot.line char rest)
    if char.isDigit || (char == '.' && rest.head?.any Char.isDigit) then
      let after ← afterNumber text
      return (token spot .number (text.take (text.length - after.length)), spot, after)
    if isNameChar char then
      let word := text.takeWhile isNameChar
      let after := text.dropWhile isNameChar
      if let quote :: inside := after then
        if textMarks.contains (String.ofList (word.map Char.toLower)) && (quote == '"' || quote == '\'') then
          return quotedText spot text (← afterQuote spot.line quote inside)
      if let some flaw := nameFlaw? word then throw flaw
      let kind := if fixedWords.contains (String.ofList word) then .fixed else .name
      return (token spot kind word, spot, after)
    if ['(', '[', '\x7b'].contains char then
      if bracketLimit ≤ spot.opened.length then throw .tooDeep
      let spot := { spot with opened := (char, spot.line) :: spot.opened }
      return (token spot .fixed [char], spot, rest)
    if [')', ']', '\x7d'].contains char then
      match spot.opened with
      | [] => throw (.unmatched char)
      | (bracket, line) :: outer =>
          if [('(', ')'), ('[', ']'), ('\x7b', '\x7d')].contains (bracket, char) then
            let spot := { spot with opened := outer }
            return (token spot .fixed [char], spot, rest)
          else throw (.mismatched char bracket (if line = spot.line then none else some line))
    if !Text.isPrintable char then throw (.unprintable char)
    let sign := ((longSigns.find? fun sign => sign.toList.isPrefixOf text).map String.toList).getD [char]
    return (token spot .fixed sign, spot, text.drop sign.length)
  /-- A quoted text as a token, with the lines in it. -/
  quotedText (spot : Spot) (text after : List Char) : Token × Spot × List Char :=
    let found := text.take (text.length - after.length)
    (token spot .quoted found, { spot with line := spot.line + found.count '\n' }, after)

/-- The tokens of a text. -/
def tokens (text : List Char) : List Token × Stop :=
  tokensFrom (2 * text.length + 3) true ⟨1, [], []⟩ text

end CommandShell.Action
