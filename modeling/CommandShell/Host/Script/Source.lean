import CommandShell.Host.Script.Node

/-!
Reading a script as tokens: words, signs and redirections. Parts of a word that hold commands are read
by the parser, which is given here as `Nested`.
-/

namespace CommandShell.Host.Script

/-- A text that a redirection announced and that begins after the end of the line. -/
structure Announced where
  number : Nat
  ending : Bytes
  stripsTabs : Bool
  quoted : Bool
  deriving DecidableEq, Repr

/-- A token of a script. A word that is written without quotes and parameters has a plain text. -/
inductive Token where
  | word (parts : Word) (plain? : Option Bytes)
  | keyword (keyword : String)
  | sign (sign : String)
  | redirect (descriptor? : Option Nat) (sign : String)
  | finish

/-- Another text that stands in a script for a word. While some of it is left, the word stands for
itself. -/
structure Substitute where
  name : Bytes
  /-- How much of the script is left after the text. -/
  left : Nat
  endsBlank : Bool
  deriving DecidableEq, Repr

/-- What is left of a script, and what was read of it. -/
structure Source where
  rest : Bytes
  line : Nat
  pushed? : Option Token
  /-- The word that was read last. -/
  lastWord : Word
  announced : List Announced
  nextDocument : Nat
  documents : List (Nat × Word)
  /-- The words that stand for other texts. -/
  aliases : List (Bytes × Bytes)
  /-- The texts that are being read for words, the innermost one first. -/
  opened : List Substitute

/-- What is looked for when a token is read: line ends before it are skipped, words can be keywords, and
words can stand for other texts. -/
structure Check where
  lines : Bool
  keywords : Bool
  substitutes : Bool
  deriving DecidableEq, Repr

namespace Check

/-- Nothing is looked for. -/
def nothing : Check := ⟨false, false, false⟩

/-- A command can start here. -/
def command : Check := ⟨false, true, true⟩

/-- A command can start here or in a later line. -/
def laterCommand : Check := ⟨true, true, true⟩

/-- A pattern or the end of all branches can start here or in a later line. -/
def branch : Check := ⟨true, true, false⟩

/-- The words of a simple command start here. -/
def words : Check := ⟨false, false, true⟩

end Check

/-- A script that cannot be read, and the line where that was found. -/
structure Misspelling where
  line : Nat
  message : String
  deriving DecidableEq, Repr

/-- Reading a part of a script. -/
abbrev Reader := StateT Source (Except Misspelling)

/-- Where a word stands, which decides where it ends and what is special in it. -/
inductive Context where
  | plain
  | quotes
  /-- After an operation of a parameter in braces. -/
  | braces (quoted : Bool)
  /-- A text of its own. -/
  | document
  | arithmetic
  deriving DecidableEq, Repr

/-- The readers that call each other in circles. -/
structure Nested where
  list : Bool → Reader (Option Node)
  command : Check → Reader Node
  word : Context → Reader Word

/-- A token as a message names it. -/
def Token.title : Token → String
  | .finish => "end of file"
  | .redirect .. => "redirection"
  | .word .. => "word"
  | .sign "\n" => "newline"
  | .sign mark => "\"" ++ mark ++ "\""
  | .keyword mark => "\"" ++ mark ++ "\""

/-- What is said of a token that stands where none of its kind can. -/
def unexpectedText (found : Token) (wanted? : Option Token) : String :=
  "Syntax error: " ++ found.title ++ " unexpected" ++
    match wanted? with
    | some wanted => " (expecting " ++ wanted.title ++ ")"
    | none => ""

namespace Reader

/-- Nothing more can be read. -/
def refuse {Value : Type} (message : String) : Reader Value := fun source =>
  .error ⟨source.line, message⟩

/-- The next byte, without reading it. A backslash before a line end joins two lines. -/
def peek : Reader (Option Char) := fun source =>
  match source.rest with
  | '\\' :: '\n' :: rest =>
      let rest := joined (rest.length + 1) rest
      .ok (rest.head?, { source with rest, line := source.line + 1 })
  | rest => .ok (rest.head?, source)
where
  /-- A text without the joined line ends at its start. -/
  joined : Nat → Bytes → Bytes
    | steps + 1, '\\' :: '\n' :: rest => joined steps rest
    | _, rest => rest

/-- Read one byte. -/
def skip : Reader Unit := fun source =>
  match source.rest with
  | [] => .ok ((), source)
  | char :: rest =>
      .ok ((), { source with rest, line := if char = '\n' then source.line + 1 else source.line })

/-- Read the bytes of a kind. -/
def takeWhile (wanted : Char → Bool) : Reader Bytes := fun source =>
  .ok (source.rest.takeWhile wanted, { source with rest := source.rest.dropWhile wanted })

/-- A bound for the number of tokens and parts that are left. Every word can stand for another text, but
inside that text not again. -/
def size : Reader Nat := fun source =>
  let growth := (source.aliases.map fun replacement => replacement.2.length).foldl (· + ·) 2
  .ok ((source.rest.length + 2) * growth.pow source.aliases.length, source)

/-- Repeat a step from a state as long as it asks for more. -/
def iterate {State : Type} (step : State → Reader (State × Bool)) : Nat → State → Reader State
  | 0, state => pure state
  | steps + 1, state => do
      let (state, more) ← step state
      if more then iterate step steps state else pure state

/-- Repeat a step as often as the script can need. -/
def loop {State : Type} (state : State) (step : State → Reader (State × Bool)) : Reader State := do
  iterate step (← size) state

end Reader

open Reader

/-- A letter or an underscore. -/
def startsName (char : Char) : Bool := char.isAlpha || char == '_'

/-- A character of a name. -/
def isNameChar (char : Char) : Bool := char.isAlphanum || char == '_'

/-- A name of a variable. -/
def isName (text : Bytes) : Bool :=
  match text with
  | [] => false
  | char :: rest => startsName char && rest.all isNameChar

/-- The parameters whose names are single signs. -/
def specialNames : List Char := ['@', '*', '#', '?', '-', '$', '!']

/-- Parts with text after them; texts of one kind are joined. -/
def addText (parts : Word) (quoted : Bool) (text : Bytes) : Word :=
  match parts.getLast? with
  | some (.text last before) =>
      if last = quoted then parts.dropLast ++ [.text quoted (before ++ text)]
      else parts ++ [.text quoted text]
  | _ => parts ++ [.text quoted text]

/-- Texts in a context are quoted. -/
def Context.isQuoted : Context → Bool
  | .plain => false
  | .braces quoted => quoted
  | _ => true

/-- The characters that end a plain word. -/
def endsWord (char : Char) : Bool :=
  [' ', '\t', '\n', ';', '&', '|', '<', '>', '(', ')'].contains char

/-- The characters that a backslash quotes in a context. -/
def isEscapable (context : Context) (char : Char) : Bool :=
  match context with
  | .plain => true
  | .braces false => true
  | .braces true => ['$', '\x60', '"', '\\', '}'].contains char
  | .document => ['$', '\x60', '\\'].contains char
  | _ => ['$', '\x60', '"', '\\'].contains char

/-- The text of a command between back quotes. -/
def backQuoted (inQuotes : Bool) : Reader Bytes := do
  loop [] fun text => do
    match (← get).rest with
    | [] => refuse "Syntax error: EOF in backquote substitution"
    | '\x60' :: _ =>
        skip
        return (text, false)
    | '\\' :: char :: _ =>
        skip
        skip
        let plain := ['\x60', '\\', '$'].contains char || (inQuotes && char == '"')
        if char = '\n' then return (text, true)
        else return (text ++ (if plain then [char] else ['\\', char]), true)
    | char :: _ =>
        skip
        return (text ++ [char], true)

/-- Read a text of its own with a reader, as far as the reader goes. The documents in it belong to the
script, and words that stand for themselves do so in it. -/
def within {Value : Type} (text : Bytes) (reader : Reader Value) : Reader Value := fun source =>
  let opened := source.opened.map fun substitute => { substitute with left := 0, endsBlank := false }
  match reader { source with rest := text, line := 1, pushed? := none, announced := [], opened } with
  | .error misspelling => .error misspelling
  | .ok (value, inner) =>
      .ok (value, { source with nextDocument := inner.nextDocument, documents := inner.documents })

/-- The name of a parameter in braces, and whether its length is asked for. Without a name there is no
parameter. -/
def bracedName : Reader (Option Bytes × Bool) := do
  match ← peek with
  | none => return (none, false)
  | some char =>
      if startsName char then return (some (← takeWhile isNameChar), false)
      else if char.isDigit then return (some (← takeWhile Char.isDigit), false)
      else if char = '#' then
        skip
        match ← peek with
        | none => return (some ['#'], false)
        | some next =>
            if startsName next then return (some (← takeWhile isNameChar), true)
            else if next.isDigit then return (some (← takeWhile Char.isDigit), true)
            else if specialNames.contains next && ((← get).rest.drop 1).head? == some '}' then
              skip
              return (some [next], true)
            else return (some ['#'], false)
      else if specialNames.contains char then
        skip
        return (some [char], false)
      else return (none, false)

/-- The operation after the name of a parameter in braces, and whether an empty value counts as
missing. -/
def operation : Reader (Operation × Bool) := do
  let ofSign (char? : Option Char) : Option Operation := match char? with
    | some '-' => some .orElse
    | some '+' => some .alternative
    | some '?' => some .orComplain
    | some '=' => some .orAssign
    | _ => none
  match ← peek with
  | some '}' => return (.value, false)
  | some ':' =>
      skip
      match ofSign (← peek) with
      | some operation =>
          skip
          return (operation, true)
      | none => return (.unknown, false)
  | some '%' =>
      skip
      if (← peek) = some '%' then
        skip
        return (.withoutEnd true, false)
      else return (.withoutEnd false, false)
  | some '#' =>
      skip
      if (← peek) = some '#' then
        skip
        return (.withoutStart true, false)
      else return (.withoutStart false, false)
  | char? =>
      match ofSign char? with
      | some operation =>
          skip
          return (operation, false)
      | none => return (.unknown, false)

/-- A parameter in braces, after the opening one. -/
def braced (nested : Nested) (quoted : Bool) : Reader Part := do
  let (name?, measured) ← bracedName
  let (operation, ifEmpty) ← match name?, measured with
    | none, _ => pure (Operation.unknown, false)
    | some _, false => operation
    | some _, true =>
        if (← peek) = some '}' then pure (Operation.length, false)
        else pure (Operation.unknown, false)
  let trims := match operation with
    | .withoutEnd _ => true
    | .withoutStart _ => true
    | _ => false
  let word ← nested.word (.braces (quoted && !trims))
  return .parameter quoted (name?.getD []) operation ifEmpty word

/-- What a dollar sign stands for, after it. -/
def dollar (nested : Nested) (parts : Word) (quoted : Bool) : Reader Word := do
  match ← peek with
  | some '(' =>
      skip
      if (← peek) = some '(' then
        skip
        return parts ++ [.arithmetic quoted (← nested.word .arithmetic)]
      else
        let before := (← get).announced
        modify fun source => { source with announced := [] }
        let body ← nested.list true
        match (← get).pushed? with
        | some (.sign ")") =>
            modify fun source => { source with pushed? := none, announced := before }
            return parts ++ [.command quoted body]
        | some other => refuse (unexpectedText other (some (Token.sign ")")))
        | none => refuse (unexpectedText .finish (some (Token.sign ")")))
  | some '{' =>
      skip
      return parts ++ [← braced nested quoted]
  | some char =>
      if startsName char then
        return parts ++ [.parameter quoted (← takeWhile isNameChar) .value false []]
      else if char.isDigit || specialNames.contains char then
        skip
        return parts ++ [.parameter quoted [char] .value false []]
      else return addText parts quoted ['$']
  | none => return addText parts quoted ['$']

/-- One part of a word, and whether the word goes on. `depth` counts the open brackets in
arithmetic. -/
def part (nested : Nested) (context : Context) (parts : Word) (depth : Nat) :
    Reader ((Word × Nat) × Bool) := do
  let quoted := context.isQuoted
  let more (parts : Word) : (Word × Nat) × Bool := ((parts, depth), true)
  let ended : (Word × Nat) × Bool := ((parts, depth), false)
  match (← get).rest with
  | [] =>
      match context with
      | .plain => return ended
      | .document => return ended
      | .quotes => refuse "Syntax error: Unterminated quoted string"
      | .braces _ => refuse "Syntax error: Missing '\x7d'"
      | .arithmetic => refuse "Syntax error: Missing '))'"
  | char :: rest =>
      if context = .plain && endsWord char then return ended
      skip
      if char = '\\' then
        match rest with
        | [] => return more (addText parts true ['\\'])
        | '\n' :: _ =>
            skip
            return more parts
        | next :: _ =>
            if isEscapable context next then
              skip
              return more (addText parts true [next])
            else return more (addText parts quoted ['\\'])
      else if char = '$' then return more (← dollar nested parts quoted)
      else if char = '\x60' then
        let text ← backQuoted (context = .quotes)
        return more (parts ++ [.command quoted (← within text (nested.list true))])
      else match context with
        | .plain => quoteOrText more parts char
        | .braces false => if char = '}' then return ended else quoteOrText more parts char
        | .braces true =>
            if char = '}' then return ended
            else if char = '"' then return more (parts ++ (← nested.word .quotes))
            else return more (addText parts true [char])
        | .quotes =>
            if char = '"' then return ended else return more (addText parts true [char])
        | .document => return more (addText parts true [char])
        | .arithmetic =>
            if char = '(' then return ((addText parts true [char], depth + 1), true)
            else if char = ')' then
              if 0 < depth then return ((addText parts true [char], depth - 1), true)
              else if (← peek) = some ')' then
                skip
                return ended
              else return more (addText parts true [char])
            else return more (addText parts true [char])
where
  /-- A byte outside quotes, which may open them. -/
  quoteOrText (more : Word → (Word × Nat) × Bool) (parts : Word) (char : Char) :
      Reader ((Word × Nat) × Bool) := do
    if char = '\'' then
      let source ← get
      let inside := source.rest.takeWhile (· != '\'')
      if inside.length = source.rest.length then
        refuse "Syntax error: Unterminated quoted string"
      else
        set { source with
          rest := source.rest.drop (inside.length + 1)
          line := source.line + inside.count '\n' }
        return more (addText parts true inside)
    else if char = '"' then
      let inside ← nested.word .quotes
      let anchor : Word := match inside.getLast? with
        | none => [.text true []]
        | some (.parameter _ ['@'] .value _ _) => if inside.length = 1 then [] else [.text true []]
        | some _ => []
      return more (parts ++ inside ++ anchor)
    else return more (addText parts false [char])

/-- Read a word in a context. -/
def word (nested : Nested) (context : Context) : Reader Word := do
  let (parts, _) ← loop (([], 0) : Word × Nat) fun state => part nested context state.1 state.2
  return parts

/-- The lines of an announced text up to its ending, and the rest. -/
def documentLines (announced : Announced) : Nat → Bytes → Bytes × Bytes
  | 0, text => ([], text)
  | _, [] => ([], [])
  | steps + 1, text =>
      let whole := text.takeWhile (· != '\n')
      let after := text.drop (whole.length + 1)
      let line := if announced.stripsTabs then whole.dropWhile (· == '\t') else whole
      if line = announced.ending then ([], after)
      else
        let (lines, rest) := documentLines announced steps after
        (line ++ (if whole.length < text.length then ['\n'] else []) ++ lines, rest)

/-- Read one announced text. -/
def document (nested : Nested) (announced : Announced) : Reader Unit := do
  let source ← get
  let (text, rest) := documentLines announced (source.rest.length + 1) source.rest
  set { source with rest, line := source.line + (source.rest.length - rest.length) }
  let parts ← if announced.quoted then pure [Part.text true text]
    else within text (nested.word .document)
  modify fun source => { source with documents := (announced.number, parts) :: source.documents }

/-- Read the texts that were announced in the line before. -/
def documents (nested : Nested) : Reader Unit := do
  let announced := (← get).announced
  modify fun source => { source with announced := [] }
  announced.forM (document nested)

/-- The plain text of a word, when it is written without quotes and parameters. -/
def plainText? : Word → Option Bytes
  | [.text false text] => some text
  | _ => none

/-- The sign of a redirection at the start of a text. -/
def redirectSign? (text : Bytes) : Option String :=
  ["<<-", "<<", "<&", "<>", ">>", ">&", ">|", "<", ">"].find? fun sign => sign.toList.isPrefixOf text

/-- Leave the texts for words that are read to their end, and tell whether one of them ends with a
blank. -/
def leaveSubstitutes (atBlank : Bool) : Reader Bool := do
  let source ← get
  let (ended, open_) := source.opened.partition fun substitute =>
    decide (source.rest.length ≤ substitute.left) && (!atBlank || substitute.endsBlank)
  set { source with opened := open_ }
  return ended.any (·.endsBlank)

/-- Read the next token, and tell whether the text for a word that ends before it or in it ends with a
blank. -/
def nextToken (nested : Nested) : Reader (Token × Bool) := do
  let source ← get
  match source.pushed? with
  | some token =>
      set { source with pushed? := none }
      return (token, false)
  | none =>
      let afterBlank ← loop false fun afterBlank => do
        let afterBlank := (← leaveSubstitutes false) || afterBlank
        match ← peek with
        | some ' ' => skip
        | some '\t' => skip
        | some '#' => let _ ← takeWhile (· != '\n')
        | _ => return (afterBlank, false)
        return (afterBlank, true)
      let found ← cut
      if let .word parts _ := found then modify fun source => { source with lastWord := parts }
      let inBlank ← leaveSubstitutes true
      return (found, afterBlank || inBlank)
where
  /-- The token that starts here. -/
  cut : Reader Token := do
    let rest := (← get).rest
    match rest with
    | [] => return .finish
    | '\n' :: _ =>
        skip
        return .sign "\n"
    | char :: _ =>
        if char = '<' ∨ char = '>' then redirect none
        else match ["&&", "||", ";;", "&", "|", ";", "(", ")"].find? fun sign =>
            sign.toList.isPrefixOf rest with
          | some sign =>
              modify fun source => { source with rest := rest.drop sign.length }
              return .sign sign
          | none =>
              match rest with
              | digit :: next :: _ =>
                  if digit.isDigit && (next == '<' || next == '>') then
                    skip
                    redirect (some (digit.toNat - '0'.toNat))
                  else plainWord
              | _ => plainWord
  /-- A redirection of a descriptor. -/
  redirect (descriptor? : Option Nat) : Reader Token := do
    let source ← get
    match redirectSign? source.rest with
    | some sign =>
        set { source with rest := source.rest.drop sign.length }
        return .redirect descriptor? sign
    | none => refuse "Syntax error: redirection expected"
  /-- A word of a command. -/
  plainWord : Reader Token := do
    let parts ← nested.word .plain
    return .word parts (plainText? parts)

/-- Give a token back. -/
def unread (token : Token) : Reader Unit :=
  modify fun source => { source with pushed? := some token }

/-- The words that have a meaning of their own where a command can start. -/
def keywords : List String := [
  "!", "case", "do", "done", "elif", "else", "esac", "fi", "for", "if", "in", "then", "until", "while",
  "\x7b", "\x7d"]

/-- Put a text in front of the script for a word. -/
def substitute (name text : Bytes) : Reader Unit :=
  modify fun source => { source with
    rest := text ++ source.rest
    opened := if text.isEmpty then source.opened
      else ⟨name, source.rest.length, [' ', '\t'].contains (text.getLast?.getD 'x')⟩ :: source.opened }

/-- Read the next token. A word can be a keyword, or stand for another text, where that is looked for. -/
def token (nested : Nested) (check : Check) : Reader Token := do
  let (found, _) ← loop ((Token.finish, check) : Token × Check) fun (_, check) => do
    let (found, afterBlank) ← nextToken nested
    let check := { check with substitutes := check.substitutes || afterBlank }
    match found with
    | .sign "\n" =>
        if check.lines then documents nested
        return ((found, check), check.lines)
    | .word _ (some text) =>
        if check.keywords && keywords.contains (String.ofList text) then
          return ((.keyword (String.ofList text), check), false)
        let source ← get
        let isOpen := source.opened.any (·.name == text)
        match if check.substitutes && !isOpen then source.aliases.lookup text else none with
        | some replacement =>
            substitute text replacement
            return ((found, check), true)
        | none => return ((found, check), false)
    | found => return ((found, check), false)
  return found

end CommandShell.Host.Script
