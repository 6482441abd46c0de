import CommandShell.Console.Action.Token

/-!
Grammars as data. A rule tries its alternatives in order, and the first one that fits wins. Some
alternatives are only there to tell what is wrong; they are tried in a second reading.
-/

namespace CommandShell.Action

/-- What a node of a tree stands for. -/
inductive Form where
  | constant (name : String)
  | number (isImaginary : Bool)
  | text
  | fieldText
  | tuple
  | list
  | set
  | dictionary
  | entry
  | spread
  | call
  | member
  | subscript
  | starred
  | function
  | generator
  | listOf
  | setOf
  | dictionaryOf
  | yields
  | awaits
  | joined
  | binary (sign : String)
  | unary (sign : String)
  | comparison
  | relation (sign : String)
  | conditional
  | named
  | arguments
  | keyword
  | keywords
  | group
  deriving DecidableEq, Repr

/-- What was read: tokens, and nodes over them. -/
inductive Tree where
  | token (token : Token)
  | node (form : Form) (parts : List Tree)

/-- What an alternative expects, piece by piece. -/
inductive Piece (rule : Type) where
  | fixed (text : String)
  | kind (kind : Kind)
  /-- A name with one of these texts. -/
  | named (texts : List String)
  | rule (name : rule)
  | sequence (pieces : List (Piece rule))
  | choice (pieces : List (Piece rule))
  | optional (piece : Piece rule)
  | many (piece : Piece rule)
  | ahead (piece : Piece rule)
  | absent (piece : Piece rule)
  /-- From here on no other alternative of the rule is tried. -/
  | commit
  /-- Read without the alternatives that tell what is wrong. -/
  | quietly (piece : Piece rule)

/-- What becomes of the parts that an alternative has read. -/
inductive Result where
  | parts
  | form (form : Form)
  | check (check : List Tree → Except Flaw (List Tree))
  /-- A flaw, given the parts and the last token; without one the whole rule fails. -/
  | flaw? (judge : List Tree → Token → Option Flaw)

/-- An alternative of a rule. -/
structure Alternative (rule : Type) where
  pieces : List (Piece rule)
  result : Result
  /-- Only for the second reading. -/
  late : Bool

/-- A rule: its alternatives, and what can follow what was read so far, again and again. -/
structure Definition (rule : Type) where
  alternatives : List (Alternative rule)
  suffixes : List (Alternative rule)
  /-- Whether what the rule reads at a place is kept for the next time. -/
  remembers : Bool

/-- A flaw that was met, and whether the rest of the tokens can still hold a worse one. -/
structure Fault where
  flaw : Flaw
  final : Bool

namespace Grammar

variable {rule : Type} [BEq rule]

/-- What a rule read at a place: its trees and the place after them, or nothing. -/
abbrev Found := Option (List Tree × Nat)

/-- What is remembered while reading: the last place that was looked at, and the readings of rules at each
place. -/
structure Progress (rule : Type) where
  furthest : Nat
  known : Array (List (rule × Found))

/-- Readings remember what they have read, and can meet a flaw. -/
abbrev Reading (rule : Type) := ExceptT Fault (StateM (Progress rule))

/-- The token at a place. A flaw that ends the tokens is met by whoever gets there. -/
def tokenAt (tokens : Array Token) (stop : Stop) (place : Nat) : Reading rule (Option Token) := do
  modify fun progress => { progress with furthest := max progress.furthest place }
  match tokens[place]? with
  | some token => return some token
  | none => match stop with
    | .finished => return none
    | .loud flaw => throw ⟨flaw, true⟩
    | .silent flaw _ => throw ⟨flaw, true⟩

/-- Read a token that fits. -/
def readToken (tokens : Array Token) (stop : Stop) (fits : Token → Bool) (keeps : Bool) (place : Nat) :
    Reading rule Found := do
  match ← tokenAt tokens stop place with
  | some token =>
      return if fits token then some (if keeps then [.token token] else [], place + 1) else none
  | none => return none

/-- Read pieces one after the other. The answer also tells whether one of them commits. -/
def readAll (read : Piece rule → Nat → Reading rule Found) :
    List (Piece rule) → List Tree → Bool → Nat → Reading rule (Found × Bool)
  | [], trees, committed, place => return (some (trees, place), committed)
  | .commit :: rest, trees, _, place => readAll read rest trees true place
  | piece :: rest, trees, committed, place => do
      match ← read piece place with
      | none => return (none, committed)
      | some (more, next) => readAll read rest (trees ++ more) committed next

/-- Read the first piece that fits. -/
def readAny (read : Piece rule → Nat → Reading rule Found) :
    List (Piece rule) → Nat → Reading rule Found
  | [], _ => return none
  | piece :: rest, place => do
      match ← read piece place with
      | some found => return some found
      | none => readAny read rest place

/-- What the parts of an alternative become, and whether the rule is done. -/
def conclude (tokens : Array Token) (result : Result) (parts : List Tree) (next : Nat) :
    Reading rule Found := do
  match result with
  | .parts => return some (parts, next)
  | .form form => return some ([.node form parts], next)
  | .check check => match check parts with
    | .ok trees => return some (trees, next)
    | .error flaw => throw ⟨flaw, false⟩
  | .flaw? judge =>
      match tokens[next - 1]?.bind (judge parts) with
      | some flaw => throw ⟨flaw, false⟩
      | none => return none

/-- Read the first alternative that fits after trees that were read already. -/
def readAlternatives (tokens : Array Token) (late : Bool) (read : Piece rule → Nat → Reading rule Found)
    (before : List Tree) : List (Alternative rule) → Nat → Reading rule Found
  | [], _ => return none
  | alternative :: rest, place => do
      if alternative.late && !late then readAlternatives tokens late read before rest place
      else match ← readAll read alternative.pieces before false place with
        | (some (parts, next), _) => conclude tokens alternative.result parts next
        | (none, true) => return none
        | (none, false) => readAlternatives tokens late read before rest place

/-- Read suffixes as long as one fits. -/
def readSuffixes (tokens : Array Token) (late : Bool) (read : Piece rule → Nat → Reading rule Found)
    (suffixes : List (Alternative rule)) : Nat → List Tree → Nat → Reading rule (List Tree × Nat)
  | 0, trees, place => return (trees, place)
  | steps + 1, trees, place => do
      match ← readAlternatives tokens late read trees suffixes place with
      | none => return (trees, place)
      | some (trees, next) => readSuffixes tokens late read suffixes steps trees next

/-- Remember what a rule read at a place. -/
def remember (name : rule) (place : Nat) (found : Found) : Reading rule Unit :=
  modify fun progress =>
    { progress with known := progress.known.modify place ((name, found) :: ·) }

/-- Read a piece at a place. `steps` bounds how deep pieces are inside each other. -/
def read (grammar : rule → Definition rule) (tokens : Array Token) (stop : Stop) :
    Nat → Bool → Piece rule → Nat → Reading rule Found
  | 0, _, _, _ => return none
  | steps + 1, late, piece, place => do
      let inner := read grammar tokens stop steps late
      match piece with
      | .fixed text =>
          let text := text.toList
          readToken tokens stop (fun token => token.kind == .fixed && token.text == text) false place
      | .named texts =>
          let texts := texts.map String.toList
          readToken tokens stop (fun token => token.kind == .name && texts.contains token.text) true place
      | .kind kind => readToken tokens stop (·.kind == kind) true place
      | .sequence pieces => return (← readAll inner pieces [] false place).1
      | .choice pieces => readAny inner pieces place
      | .optional piece => return some ((← inner piece place).getD ([], place))
      | .many piece =>
          match ← inner piece place with
          | none => return some ([], place)
          | some (trees, next) =>
              return (← inner (.many piece) next).map fun (more, last) => (trees ++ more, last)
      | .ahead piece => return (← inner piece place).map fun _ => ([], place)
      | .absent piece => return if (← inner piece place).isSome then none else some ([], place)
      | .commit => return some ([], place)
      | .quietly piece => read grammar tokens stop steps false piece place
      | .rule name =>
          let definition := grammar name
          match (((← get).known[place]?).getD []).find? (·.1 == name) with
          | some (_, found) => return found
          | none =>
              let found ← readAlternatives tokens late inner [] definition.alternatives place
              let found ← match found with
                | none => pure none
                | some (trees, next) =>
                    if definition.suffixes.isEmpty then pure (some (trees, next))
                    else
                      some <$> readSuffixes tokens late inner definition.suffixes tokens.size trees next
              if definition.remembers then remember name place found
              return found

/-- The worst flaw of a text, given a fault, the last place that was looked at, and how the tokens end. A
flaw of a token is told as it is, and any other one by `tell`. -/
def worst (tokens : Array Token) (stop : Stop) (tell : Flaw → Flaw) (furthest : Nat) (fault : Fault) :
    Flaw :=
  match stop with
  | .finished => tell fault.flaw
  | .loud worse => worse
  | .silent _ opened? =>
      if fault.final then tell fault.flaw
      else match opened?, tokens[furthest]? with
        | some (bracket, line), some token =>
            tell (if line < token.line then .neverClosed bracket else fault.flaw)
        | _, _ => tell fault.flaw

/-- The trees of a whole text, or the worst flaw in it. A text that a first reading does not fit is read
again with the alternatives that tell what is wrong. -/
def parse (grammar : rule → Definition rule) (start : rule) (tell : Flaw → Flaw) (text : List Char) :
    Except Flaw (List Tree) :=
  let (all, stop) := Action.tokens (withLineEnds text)
  let tokens := all.toArray
  let attempt (late : Bool) (furthest : Nat) : Except Fault Found × Progress rule :=
    (read grammar tokens stop (200 * (tokens.size + 2)) late (.rule start) 0).run
      ⟨furthest, Array.replicate (tokens.size + 1) []⟩
  match attempt false 0 with
  | (.ok (some (trees, _)), _) => .ok trees
  | (.error fault, progress) => .error (worst tokens stop tell progress.furthest fault)
  | (.ok none, first) =>
      .error <| match attempt true first.furthest with
        | (.error fault, progress) => worst tokens stop tell progress.furthest fault
        | (.ok _, progress) =>
            match (tokens[first.furthest]?).map Token.kind with
            | some .indent => tell .unexpectedIndent
            | some .dedent => tell .unexpectedDedent
            | _ => worst tokens stop tell progress.furthest ⟨.invalid, false⟩

end Grammar

end CommandShell.Action
