import CommandShell.Host.Script.Paths

/-!
Commands that are part of the script language itself. Each gets its arguments and answers with a status.
-/

namespace CommandShell.Host.Script

open Script.Action

/-- A command of the language. -/
abbrev Builtin := Engine → List Bytes → Action Nat

namespace Builtin

/-- A string as bytes. -/
def bytes (text : String) : Bytes := Bytes.ofString text

/-- Complain of an operand, and give up. -/
def refuse {Value : Type} (message : String) (operand : Bytes) : Action Value :=
  fail (bytes message ++ operand)

/-- Write to the output; the status tells whether it leads anywhere. -/
def put (text : Bytes) : Action Nat := do
  if ← write 1 text then return 0
  else
    complain ((← get).command?.getD [] ++ bytes ": I/O error")
    return 1

/-- Arguments with the letters of their options apart; some letters take a text. Letters that are not known
are refused, and the first argument that is no option ends them. -/
def options (letters taking : List Char) : List Bytes →
    Action (List (Char × Bytes) × List Bytes)
  | [] => return ([], [])
  | ['-', '-'] :: rest => return ([], rest)
  | ('-' :: first :: more) :: rest => do
      let (found, wanting?) ← cluster (first :: more)
      match wanting?, rest with
      | none, rest =>
          let (others, operands) ← options letters taking rest
          return (found ++ others, operands)
      | some letter, text :: rest =>
          let (others, operands) ← options letters taking rest
          return (found ++ (letter, text) :: others, operands)
      | some letter, [] => fail (bytes "No arg for -" ++ letter :: bytes " option")
  | arguments => return ([], arguments)
where
  /-- The options in one argument, and the last one when its text is the next argument. -/
  cluster : List Char → Action (List (Char × Bytes) × Option Char)
    | [] => return ([], none)
    | letter :: rest =>
        if taking.contains letter then
          return if rest.isEmpty then ([], some letter) else ([(letter, rest)], none)
        else if letters.contains letter then do
          let (found, wanting?) ← cluster rest
          return ((letter, []) :: found, wanting?)
        else refuse "Illegal option -" [letter]

/-- A text in quotes that a script can read back: what is no quote stands in single quotes, and quotes stand
in double ones. -/
def quotedText (text : Bytes) : Bytes := quoted text.length text
where
  /-- At most `steps` changes between the two kinds of quotes. -/
  quoted : Nat → Bytes → Bytes
    | steps, text =>
        let plain := text.takeWhile (· != '\'')
        let rest := text.drop plain.length
        let after := rest.dropWhile (· == '\'')
        let start := '\'' :: plain ++ ['\'']
        match steps with
        | 0 => start
        | steps + 1 =>
            if rest.isEmpty then start
            else
              start ++ '"' :: List.replicate (rest.length - after.length) '\'' ++ ['"'] ++
                if after.isEmpty then [] else quoted steps after

/-- A line that gives a name a text. -/
def assignmentLine (name text : Bytes) : Bytes := name ++ '=' :: quotedText text ++ ['\n']

/-- The bucket of a name among a number of them. -/
def bucket (count : Nat) (name : Bytes) : Nat :=
  (name.map Char.toNat).foldl (· + ·) (16 * (name.head?.map Char.toNat).getD 0) % count

/-- Values in the order of the buckets of their names; those in one bucket keep their order. -/
def byBucket {Value : Type} (count : Nat) (name : Value → Bytes) (values : List Value) : List Value :=
  values.mergeSort fun first second => decide (bucket count (name first) ≤ bucket count (name second))

/-- A command that only answers with a status. -/
def constant (status : Nat) : Builtin := fun _ _ => return status

end Builtin

end CommandShell.Host.Script
