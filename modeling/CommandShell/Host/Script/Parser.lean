import CommandShell.Host.Script.Source

/-!
Reading commands: simple ones, compound ones, pipes and lists. A script is read and run line by line,
so that what stands before a misspelled line is still run.
-/

namespace CommandShell.Host.Script

open Reader

/-- The keywords and signs that end a list of commands. -/
def endings : List String := ["done", "elif", "else", "esac", "fi", "then", "do", "\x7d", ")", ";;"]

/-- Commands of the shell that a function cannot replace. -/
def specialBuiltins : List String := [
  ".", ":", "break", "continue", "eval", "exec", "exit", "export", "local", "readonly", "return", "set",
  "shift", "times", "trap", "unset"]

/-- The keyword or the sign that a token is. -/
def Token.mark? : Token → Option String
  | .sign mark => some mark
  | .keyword mark => some mark
  | _ => none

/-- A token stands where none of its kind can. -/
def unexpected {Value : Type} (found : Token) (wanted? : Option Token) : Reader Value :=
  refuse (unexpectedText found wanted?)

/-- Read a keyword or a sign that must come. -/
def require (nested : Nested) (check : Check) (wanted : Token) : Reader Unit := do
  let next ← token nested check
  if next.mark? = wanted.mark? then return () else unexpected next (some wanted)

/-- A list of commands and the keyword after it. -/
def bodyUntil (nested : Nested) (ending : Token) : Reader Node := do
  let body ← nested.list false
  require nested .nothing ending
  match body with
  | some node => return node
  | none => unexpected .finish (some ending)

/-- A word that is written in a script must come. -/
def requireWord (nested : Nested) : Reader Word := do
  match ← token nested .nothing with
  | .word parts _ => return parts
  | other => unexpected other none

/-- The direction of a redirection and the descriptor it has by itself. -/
def directionOf (sign : String) : Direction × Nat :=
  match sign with
  | "<" => (.read, 0)
  | "<>" => (.readWrite, 0)
  | "<&" => (.copy false, 0)
  | "<<" => (.document, 0)
  | "<<-" => (.document, 0)
  | ">>" => (.append, 1)
  | ">&" => (.copy true, 1)
  | ">|" => (.write true, 1)
  | _ => (.write false, 1)

/-- The text of a word without its quotes. -/
def unquoted (parts : Word) : Bytes :=
  parts.flatMap fun part => match part with
    | .text _ text => text
    | .parameter _ name _ _ _ => '$' :: name
    | _ => []

/-- The redirection that a token starts. A text in the script is read at the end of the line. -/
def redirect (nested : Nested) (descriptor? : Option Nat) (sign : String) : Reader Redirect := do
  let (direction, usual) := directionOf sign
  let target ← requireWord nested
  let source ← get
  if direction = .document then
    let announced : Announced := {
      number := source.nextDocument
      ending := unquoted target
      stripsTabs := sign == "<<-"
      quoted := target.any fun part => match part with
        | .text quoted _ => quoted
        | _ => false }
    set { source with
      announced := source.announced ++ [announced]
      nextDocument := source.nextDocument + 1 }
  return .mk (descriptor?.getD usual) direction target source.nextDocument

/-- The redirections after a compound command. Keywords are looked for before the first one only. -/
def redirects (nested : Nested) : Reader (List Redirect) := do
  loop ([] : List Redirect) fun found => do
    match ← token nested (if found.isEmpty then .command else .nothing) with
    | .redirect descriptor? sign => return (found ++ [← redirect nested descriptor? sign], true)
    | other =>
        unread other
        return (found, false)

/-- The name and the value of a word that assigns. -/
def assignment? (parts : Word) : Option (Bytes × Word) :=
  match parts with
  | .text false text :: rest =>
      let name := text.takeWhile (· != '=')
      match text.drop name.length with
      | _ :: value =>
          if isName name then
            some (name, if value.isEmpty then rest else .text false value :: rest)
          else none
      | [] => none
  | _ => none

/-- A simple command while it is read. -/
structure Simple where
  assignments : List (Bytes × Word)
  words : List Word
  redirects : List Redirect
  /-- The command turned out to define a function. -/
  definition? : Option Node

/-- A simple command, or the definition of a function. -/
def simple (nested : Nested) : Reader Node := do
  let line := (← get).line
  let read ← loop (⟨[], [], [], none⟩ : Simple) fun read => do
    match ← token nested (if read.words.isEmpty then .words else .nothing) with
    | .word parts _ =>
        match if read.words.isEmpty then assignment? parts else none with
        | some assignment =>
            return ({ read with assignments := read.assignments ++ [assignment] }, true)
        | none => return ({ read with words := read.words ++ [parts] }, true)
    | .redirect descriptor? sign =>
        let redirect ← redirect nested descriptor? sign
        return ({ read with redirects := read.redirects ++ [redirect] }, true)
    | .sign "(" =>
        match read.words, read.assignments.isEmpty && read.redirects.isEmpty with
        | [name], true =>
            require nested .nothing (.sign ")")
            match plainText? name with
            | some name =>
                if !isName name || specialBuiltins.contains (String.ofList name) then
                  refuse "Syntax error: Bad function name"
                let line := (← get).line
                let body ← nested.command .laterCommand
                return ({ read with definition? := some (.define line name body) }, false)
            | none => refuse "Syntax error: Bad function name"
        | _, _ =>
            unread (.sign "(")
            return (read, false)
    | other =>
        unread other
        return (read, false)
  return read.definition?.getD (.simple line read.assignments read.words read.redirects)

/-- The words of a loop up to the end of its line. -/
def loopWords (nested : Nested) : Reader (List Word) := do
  loop ([] : List Word) fun words => do
    match ← token nested .nothing with
    | .word parts _ => return (words ++ [parts], true)
    | .sign ";" => return (words, false)
    | .sign "\n" => return (words, false)
    | other => unexpected other none

/-- The rest of a loop over words. -/
def each (nested : Nested) (line : Nat) : Reader Node := do
  let name ← match ← token nested .nothing with
    | .word _ (some name) =>
        if isName name then pure name else refuse "Syntax error: Bad for loop variable"
    | _ => refuse "Syntax error: Bad for loop variable"
  let words? ← match ← token nested .laterCommand with
    | .keyword "in" => some <$> loopWords nested
    | .sign ";" => pure none
    | other =>
        unread other
        pure none
  require nested .laterCommand (.keyword "do")
  return .each line name words? (← bodyUntil nested (.keyword "done"))

/-- The patterns of a branch, after the first token of it. A sign in place of a pattern stands for the word
before it. -/
def patterns (nested : Nested) (first : Token) : Reader (List Word) := do
  if let .sign "(" := first then let _ ← token nested .nothing
  loop ([] : List Word) fun found => do
    let found := found ++ [(← get).lastWord]
    match ← token nested .nothing with
    | .sign "|" =>
        let _ ← token nested .nothing
        return (found, true)
    | .sign ")" => return (found, false)
    | other => unexpected other (some (.sign ")"))

/-- The branches of a choice by patterns. -/
def branches (nested : Nested) : Reader (List (List Word × Option Node)) := do
  loop ([] : List (List Word × Option Node)) fun found => do
    match ← token nested .branch with
    | .keyword "esac" => return (found, false)
    | next =>
        let patterns ← patterns nested next
        let found := found ++ [(patterns, ← nested.list true)]
        match ← token nested .branch with
        | .sign ";;" => return (found, true)
        | .keyword "esac" => return (found, false)
        | other => unexpected other (some (.sign ";;"))

/-- The branches of a choice by conditions, each with its condition, the last one first, and what is
done when none holds. -/
def choices (nested : Nested) : Reader (List (Node × Node) × Option Node) := do
  loop (([], none) : List (Node × Node) × Option Node) fun (found, _) => do
    let condition ← bodyUntil nested (.keyword "then")
    let first? ← nested.list false
    let next ← token nested .nothing
    match first?, next with
    | some first, .keyword "elif" => return (((condition, first) :: found, none), true)
    | some first, .keyword "else" =>
        return (((condition, first) :: found, some (← bodyUntil nested (.keyword "fi"))), false)
    | some first, .keyword "fi" => return (((condition, first) :: found, none), false)
    | _, other => unexpected other (some (.keyword "fi"))

/-- A command. -/
def command (nested : Nested) (check : Check) : Reader Node := do
  let line := (← get).line
  let next ← token nested check
  let compound : Option (Reader Node) := match next.mark? with
    | some "if" => some do
        let (found, last?) ← choices nested
        match found.foldl (fun later? (condition, first) =>
            some (Node.choice condition first later?)) last? with
        | some node => return node
        | none => unexpected .finish (some (.keyword "then"))
    | some "while" => some (loopOf false)
    | some "until" => some (loopOf true)
    | some "for" => some (each nested line)
    | some "case" => some do
        match ← token nested .nothing with
        | .word word _ =>
            require nested .laterCommand (.keyword "in")
            return .select line word (← branches nested)
        | other => unexpected other (some (.word [] none))
    | some "(" => some do return .subshell line (← bodyUntil nested (.sign ")")) []
    | some "\x7b" => some (bodyUntil nested (.keyword "\x7d"))
    | _ => none
  match compound with
  | some reader =>
      let node ← reader
      match ← redirects nested with
      | [] => return node
      | found =>
          match node with
          | .subshell line inner [] => return .subshell line inner found
          | node => return .redirected line node found
  | none =>
      match next with
      | .word .. =>
          unread next
          simple nested
      | .redirect .. =>
          unread next
          simple nested
      | other => unexpected other none
where
  /-- The rest of a loop with a condition. -/
  loopOf (stopsWhen : Bool) : Reader Node := do
    let condition ← bodyUntil nested (.keyword "do")
    return .loop stopsWhen condition (← bodyUntil nested (.keyword "done"))

/-- A pipe of commands, which may be negated. -/
def pipe (nested : Nested) (check : Check) : Reader Node := do
  let next ← token nested check
  let negated := next.mark? == some "!"
  if !negated then unread next
  let first ← command nested (if negated then .command else .nothing)
  let commands ← loop [first] fun commands => do
    match ← token nested .nothing with
    | .sign "|" => return (commands ++ [← command nested .laterCommand], true)
    | other =>
        unread other
        return (commands, false)
  let node := match commands with
    | [only] => only
    | commands => .pipe commands
  return if negated then .negation node else node

/-- Pipes that depend on each other. -/
def chain (nested : Nested) : Reader Node := do
  let first ← pipe nested .nothing
  loop first fun node => do
    match ← token nested .nothing with
    | .sign "&&" => return (.both node (← pipe nested .laterCommand), true)
    | .sign "||" => return (.either node (← pipe nested .laterCommand), true)
    | other =>
        unread other
        return (node, false)

/-- Two lists, one after the other. -/
def joined (node? : Option Node) (next : Node) : Option Node :=
  match node? with
  | none => some next
  | some node => some (.sequence node next)

/-- A list of commands inside a compound one. Only where it may be empty can an ending come first. -/
def list (nested : Nested) (mayBeEmpty : Bool) : Reader (Option Node) := do
  let (node?, _) ← loop ((none, mayBeEmpty) : Option Node × Bool) fun (node?, canEnd) => do
    let next ← token nested .laterCommand
    unread next
    match next with
    | .finish =>
        documents nested
        return ((node?, true), false)
    | next =>
        if canEnd && next.mark?.any endings.contains then return ((node?, true), false)
        let node ← chain nested
        match ← token nested .nothing with
        | .sign "&" => return ((joined node? (.background node), true), true)
        | .sign ";" => return ((joined node? node, true), true)
        | other =>
            unread other
            let more := match other with
              | .sign "\n" => true
              | .finish => true
              | _ => false
            return ((joined node? node, true), more)
  return node?

/-- The readers that call each other, at most `depth` calls deep. -/
def nested : Nat → Nested
  | 0 => ⟨fun _ => refuse "Syntax error: too deep", fun _ => refuse "Syntax error: too deep",
      fun _ => refuse "Syntax error: too deep"⟩
  | depth + 1 =>
      let inner := nested depth
      ⟨list inner, command inner, word inner⟩

/-- The next line of a script with everything that belongs to it, and whether the script goes on. At the
end of a script there is nothing. -/
def line (nested : Nested) : Reader (Option Node × Bool) := do
  loop ((none, true) : Option Node × Bool) fun (node?, _) => do
    match ← token nested .command with
    | .sign "\n" =>
        documents nested
        return ((node?, true), false)
    | .finish =>
        documents nested
        return ((node?, false), false)
    | next =>
        unread next
        let node ← chain nested
        match ← token nested .nothing with
        | .sign "&" => return ((joined node? (.background node), true), true)
        | .sign ";" => return ((joined node? node, true), true)
        | .sign "\n" =>
            unread (.sign "\n")
            return ((joined node? node, true), true)
        | .finish =>
            unread .finish
            return ((joined node? node, true), true)
        | other => unexpected other none

/-- The whole of a script before any of it is read. -/
def Source.ofText (nextDocument : Nat) (text : Bytes) : Source where
  rest := text
  line := 1
  pushed? := none
  lastWord := []
  announced := []
  nextDocument
  documents := []
  aliases := []
  opened := []

/-- Read the next line of a script, in which words can stand for other texts. -/
def Source.next (source : Source) (aliases : List (Bytes × Bytes)) :
    Except Misspelling ((Option Node × Bool) × Source) :=
  let growth := (aliases.map fun replacement => replacement.2.length).foldl (· + ·) 4
  (Script.line (Script.nested (source.rest.length + growth))).run { source with aliases }

/-- The parts of a text in which parameters and commands are replaced by their values. -/
def documentParts (nextDocument : Nat) (text : Bytes) : Except Misspelling Word := do
  let (parts, _) ← (word (Script.nested (text.length + 4)) .document).run (Source.ofText nextDocument text)
  return parts

end CommandShell.Host.Script
