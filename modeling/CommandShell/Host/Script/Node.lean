import CommandShell.Host.Bytes

/-!
Scripts as trees: commands, the words they are made of, and the parts of a word.
-/

namespace CommandShell.Host.Script

/-- What is done with the value of a parameter. -/
inductive Operation where
  | value
  | length
  /-- Another text stands in for a missing value. -/
  | orElse
  /-- Another text becomes the value when it is missing. -/
  | orAssign
  /-- A missing value is a fault. -/
  | orComplain
  /-- Another text stands for a value that is there. -/
  | alternative
  | withoutEnd (longest : Bool)
  | withoutStart (longest : Bool)
  /-- No operation is written like this. -/
  | unknown
  deriving DecidableEq, Repr

/-- What a redirection does with its descriptor. -/
inductive Direction where
  | read
  /-- The descriptor writes a document from its start; `forces` also one that is there. -/
  | write (forces : Bool)
  | append
  | readWrite
  /-- The descriptor becomes a copy of another one. -/
  | copy (writes : Bool)
  /-- The descriptor reads a text in the script. -/
  | document
  deriving DecidableEq, Repr

mutual

/-- A part of a word. A quoted part is not split into words and matches only itself. -/
inductive Part where
  | text (quoted : Bool) (text : Bytes)
  | parameter (quoted : Bool) (name : Bytes) (operation : Operation) (ifEmpty : Bool)
      (word : List Part)
  | command (quoted : Bool) (body : Option Node)
  | arithmetic (quoted : Bool) (expression : List Part)

/-- A redirection of a descriptor. The place of a text in the script is its number. -/
inductive Redirect where
  | mk (descriptor : Nat) (direction : Direction) (target : List Part) (document : Nat)

/-- A command. -/
inductive Node where
  | simple (line : Nat) (assignments : List (Bytes × List Part)) (words : List (List Part))
      (redirects : List Redirect)
  | pipe (commands : List Node)
  | both (first second : Node)
  | either (first second : Node)
  | sequence (first second : Node)
  | negation (command : Node)
  | background (command : Node)
  | redirected (line : Nat) (command : Node) (redirects : List Redirect)
  | subshell (line : Nat) (command : Node) (redirects : List Redirect)
  | choice (condition : Node) (first : Node) (second? : Option Node)
  | loop (stopsWhen : Bool) (condition body : Node)
  | each (line : Nat) (name : Bytes) (words? : Option (List (List Part))) (body : Node)
  | select (line : Nat) (word : List Part) (branches : List (List (List Part) × Option Node))
  | define (line : Nat) (name : Bytes) (body : Node)

end

instance : Inhabited Part := ⟨.text false []⟩

instance : Inhabited Node := ⟨.simple 1 [] [] []⟩

/-- A word of a script. -/
abbrev Word := List Part

end CommandShell.Host.Script
