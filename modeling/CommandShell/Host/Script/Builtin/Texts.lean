import CommandShell.Host.Format
import CommandShell.Host.Script.Builtin

/-!
The commands of the language that read and write texts, and test conditions.
-/

namespace CommandShell.Host.Script.Builtin

open Script.Action

section Reading

/-- A piece of a line that is read. -/
inductive LinePiece where
  | byte (char : Char)
  /-- A byte after a backslash. -/
  | quoted (char : Char)
  /-- A place where two lines were joined. -/
  | seam
  deriving DecidableEq, Repr

/-- One line of a text in pieces, what is left, and whether the line ended. -/
def readLine (raw : Bool) : Bytes → List LinePiece × Bytes × Bool
  | [] => ([], [], false)
  | '\n' :: rest => ([], rest, true)
  | ['\\'] => (if raw then [.byte '\\'] else [], [], false)
  | '\\' :: next :: rest =>
      if raw then found (.byte '\\') (readLine raw (next :: rest))
      else found (if next = '\n' then .seam else .quoted next) (readLine raw rest)
  | char :: rest =>
      if char = '\x00' then readLine raw rest else found (.byte char) (readLine raw rest)
where
  /-- A line with a piece before it. -/
  found (piece : LinePiece) (line : List LinePiece × Bytes × Bool) : List LinePiece × Bytes × Bool :=
    (piece :: line.1, line.2)

/-- A line while it is cut into fields. -/
structure Cutting where
  fields : List Bytes
  current : Bytes
  /-- A blank has just ended a field, and a separator that follows belongs to it. -/
  afterBlank : Bool
  /-- How many fields may still end. -/
  left : Nat
  /-- Where the last field ends if only separators follow. -/
  cut? : Option Nat
  deriving DecidableEq, Repr

namespace Cutting

/-- Take a byte that is not quoted. -/
def takeByte (separators : Bytes) (cutting : Cutting) (char : Char) : Cutting :=
  let separates := separators.contains char
  let blank := separates && [' ', '\t', '\n'].contains char
  let longer := cutting.current ++ [char]
  if cutting.left = 0 then
    if blank then
      { cutting with current := longer, cut? := some (cutting.cut?.getD cutting.current.length) }
    else { cutting with
      current := longer
      afterBlank := false
      cut? := if separates && cutting.afterBlank then cutting.cut? else none }
  else if !separates then { cutting with current := longer, afterBlank := false }
  else if cutting.afterBlank then { cutting with afterBlank := blank }
  else if cutting.current.isEmpty && blank then cutting
  else if cutting.left = 1 then
    { cutting with current := longer, afterBlank := blank, left := 0, cut? := some cutting.current.length }
  else ⟨cutting.fields ++ [cutting.current], [], blank, cutting.left - 1, none⟩

/-- Take a piece of a line. -/
def take (separators : Bytes) (cutting : Cutting) : LinePiece → Cutting
  | .byte char => cutting.takeByte separators char
  | .quoted char => { cutting with current := cutting.current ++ [char], afterBlank := false }
  | .seam => { cutting with afterBlank := false }

/-- The fields of a line, at most a number of them; the last one gets all that is left. -/
def fieldsOf (separators : Bytes) (count : Nat) (line : List LinePiece) : List Bytes :=
  let cutting := line.foldl (take separators) ⟨[], [], false, count, none⟩
  let last := match cutting.cut? with
    | some size => cutting.current.take size
    | none => cutting.current
  if last.isEmpty then cutting.fields else cutting.fields ++ [last]

end Cutting

/-- Read a line into variables; those without a field get an empty text. The status tells whether the line
ended. A prompt is not shown to an input that is no terminal. -/
def read : Builtin := fun _ arguments => do
  let (asked, names) ← options ['r'] ['p'] arguments
  if names.isEmpty then fail (bytes "arg count")
  let (line, rest, ended) := readLine (asked.any (·.1 == 'r')) (← remaining 0)
  leave 0 rest (!ended)
  let fields := Cutting.fieldsOf (← separators) names.length line
  let missing := List.replicate (names.length - fields.length) []
  (names.zip (fields ++ missing)).forM fun (name, value) => do
    requireName name
    assign name value
  return if ended then 0 else 1

end Reading

section Writing

/-- Write texts with blanks between them. Escapes are always resolved, and the end of the line is left
out when the first text says so. -/
def echo : Builtin := fun _ arguments => do
  let keepsLine := arguments.head? = some ['-', 'n']
  let texts := if keepsLine then arguments.tail else arguments
  put (written keepsLine texts)
where
  /-- The texts up to the escape that ends them all. -/
  written (keepsLine : Bool) : List Bytes → Bytes
    | [] => if keepsLine then [] else ['\n']
    | text :: rest =>
        let resolved := Escape.resolve .scriptText text
        if resolved.stopped then resolved.text
        else resolved.text ++ (if rest.isEmpty then [] else [' ']) ++ written keepsLine rest

/-- Write arguments in a format. -/
def printf : Builtin := fun _ arguments => do
  let (_, arguments) ← options [] [] arguments
  match arguments with
  | [] => fail (bytes "usage: printf format [arg ...]")
  | format :: arguments =>
      let state ← get
      let title := state.name ++ bytes (": " ++ toString state.line ++ ": printf")
      let run := Format.run .script title format arguments
      let _ ← write 2 run.complaints
      let status ← put run.output
      return if status = 0 then run.status.toNat else status

/-- Test a condition. -/
def test (names : Names) (inBrackets : Bool) : Builtin := fun _ arguments => do
  let words ← if !inBrackets then pure arguments
    else if arguments.getLast? = some [']'] then pure arguments.dropLast
    else fail (bytes "missing ]")
  match Condition.Script.holds (view names (← get)) words with
  | .ok holds => return if holds then 0 else 1
  | .error message => fail (bytes message)

end Writing

end CommandShell.Host.Script.Builtin
