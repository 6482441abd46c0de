import CommandShell.Console

/-!
The diagnosis of a host: one check for each thing the shell needs or can use, shown as a table. Only
an old interpreter or a missing log package fails it.
-/

namespace CommandShell

/-- What is known about a host. -/
structure HostFacts where
  /-- The version of the interpreter. -/
  interpreter : List Nat
  /-- The packages that are installed, with their versions. -/
  packages : List (String × String)
  system : String
  release : String
  machine : String
  deriving DecidableEq, Repr

/-- The host that the shell is made for. -/
def HostFacts.usual : HostFacts where
  interpreter := [3, 11, 2]
  packages := [("loguru", "0.7.3"), ("rich", "15.0.0"), ("questionary", "2.1.1")]
  system := "Linux"
  release := "6.1.0"
  machine := "x86_64"

/-- The state of a check. -/
inductive CheckStatus where
  | fine
  | tooOld
  | failed
  | warned
  deriving DecidableEq, Repr

/-- A status as it is written in the table. -/
def CheckStatus.markup : CheckStatus → String
  | .fine => "[green]OK[/green]"
  | .tooOld => "[red]FAIL (>=3.10 required)[/red]"
  | .failed => "[red]FAIL[/red]"
  | .warned => "[yellow]WARN[/yellow]"

/-- One row of the diagnosis. -/
structure Check where
  label : String
  value : String
  status : CheckStatus
  deriving DecidableEq, Repr

namespace Diagnosis

/-- The version of the shell. -/
def shellVersion : String := "0.1.0"

/-- The least version of the interpreter, without its last part. -/
def leastInterpreter : Nat × Nat := (3, 10)

/-- A version is recent enough when it is not below the least one, the first part first. -/
def isRecent (version : List Nat) : Bool :=
  let major := version.headD 0
  let minor := version.tail.headD 0
  decide (leastInterpreter.1 < major ∨ (major = leastInterpreter.1 ∧ leastInterpreter.2 ≤ minor))

/-- The check of a package, which has its own status when it is missing. -/
def package (facts : HostFacts) (name : String) (missing : CheckStatus) : Check :=
  match facts.packages.lookup name with
  | some version => ⟨name, version, .fine⟩
  | none => ⟨name, "NOT INSTALLED", missing⟩

/-- The name by which a system is known. -/
def systemName (system : String) : String := if system = "Darwin" then "macOS" else system

/-- Every check of a host in order. -/
def checks (facts : HostFacts) (terminal : Bool) : List Check := [
  ⟨"taskshell", shellVersion, .fine⟩,
  ⟨"Python", ".".intercalate (facts.interpreter.map toString),
    if isRecent facts.interpreter then .fine else .tooOld⟩,
  package facts "loguru" .failed,
  package facts "rich" .warned,
  package facts "questionary" .warned,
  ⟨"OS", systemName facts.system ++ " " ++ facts.release ++ " (" ++ facts.machine ++ ")", .fine⟩,
  if terminal then ⟨"terminal", "stdin is a TTY", .fine⟩
  else ⟨"terminal", "stdin is not a TTY (plain prompt)", .warned⟩]

/-- A text occurs somewhere in another. -/
def occursIn (part : List Char) : List Char → Bool
  | [] => part.isEmpty
  | char :: rest => part.isPrefixOf (char :: rest) || occursIn part rest

/-- The first of the words of a status that occurs in a text, or the text itself. -/
def plainStatus (status : String) : String :=
  (["FAIL", "WARN", "OK"].find? fun word => occursIn word.toList status.toList).getD status

/-- A diagnosis fails when some status says so. -/
def fails (checks : List Check) : Bool :=
  checks.any fun check => occursIn "FAIL".toList check.status.markup.toList

/-- The last line of a diagnosis. -/
def verdict (failed : Bool) : String :=
  if failed then "Some checks failed." else "All checks passed."

def title : String := "taskshell doctor"

def headers : List String := ["Component", "Value", "Status"]

/-- The cells of a check. -/
def cells (check : Check) : List String := [check.label, check.value, check.status.markup]

/-- A row of the plain table. -/
def plainRow (label value status : String) : String :=
  Console.pad 12 label ++ " " ++ Console.pad 40 value ++ " " ++ Console.pad 8 status ++ "\n"

/-- A line of one character across the plain table. -/
def rule (char : Char) : String := String.ofList (List.replicate 64 char) ++ "\n"

/-- The table on a console without styles. -/
def plainTable (checks : List Check) : String :=
  "\n" ++ title ++ "\n" ++ rule '=' ++ plainRow "Component" "Value" "Status" ++ rule '-' ++
    String.join (checks.map fun check =>
      plainRow check.label check.value (plainStatus check.status.markup)) ++ "\n"

/-- The least widths of the columns. -/
def leastWidths : List Nat := [12, 20, 8]

/-- The columns of a table that hold no text, in the frame and around the cells. -/
def frameWidth : Nat := 10

/-- The width of a column is that of its widest cell, and not below its least width. -/
def naturalWidths (rows : List (List (List Char))) : List Nat :=
  rows.foldl (fun widths row => List.zipWith (fun width cell => max width (Layout.breadth cell))
    widths row) leastWidths

/-- The widths of the columns. Where the table is too wide for the console, the values, which are the
widest cells, give up what is too much. -/
def columnWidths (rows : List (List (List Char))) : List Nat :=
  let widths := naturalWidths rows
  let excess := widths.foldl (· + ·) frameWidth - Console.width
  List.zipWith (· - ·) widths [0, excess, 0]

/-- A line of the frame, with its corners and the crossing of two columns. -/
def frame (left line crossing right : String) (widths : List Nat) : String :=
  left ++ crossing.intercalate (widths.map fun width =>
    String.join (List.replicate (width + 2) line)) ++ right ++ "\n"

/-- A row of the styled table, which has as many lines as its highest cell. The last column is
centred. -/
def styledRow (border : String) (widths : List Nat) (row : List Markup.StyledText) :
    Except Failure String := do
  let align := [Layout.left, Layout.left, Layout.centre]
  let cells ← (align.zip (widths.zip row)).mapM fun (place, width, cell) => do
    return ((← cell.paragraph .ellipsis width).map (place width), List.replicate width ' ')
  let height := (cells.map (·.1.length)).foldl max 1
  return String.join <| (List.range height).map fun line =>
    border ++ border.intercalate (cells.map fun cell =>
      " " ++ String.ofList (cell.1.getD line cell.2) ++ " ") ++ border ++ "\n"

/-- The table on a console with styles. -/
def styledTable (checks : List Check) : Except Failure String := do
  let header := headers.map fun label => Markup.StyledText.mk label.toList []
  let rows ← checks.mapM fun check => (cells check).mapM fun cell => Markup.styled cell.toList
  let widths := columnWidths ((header :: rows).map fun row => row.map (·.text))
  let whole := widths.foldl (· + ·) frameWidth
  let top ← styledRow "┃" widths header
  let body ← rows.mapM (styledRow "│" widths)
  return String.ofList (Layout.centre whole title.toList) ++ "\n" ++
    frame "┏" "━" "┳" "┓" widths ++ top ++ frame "┡" "━" "╇" "┩" widths ++ String.join body ++
    frame "└" "─" "┴" "┘" widths

/-- What a diagnosis prints. A styled table whose texts cannot be shown ends it. -/
def report (styled : Bool) (checks : List Check) : Except Failure Unit × List Event :=
  let ending := verdict (fails checks) ++ "\n"
  if styled then
    match styledTable checks with
    | .error failure => (.error failure, [.print .output "\n"])
    | .ok table => (.ok (), [.print .output "\n", .print .output table, .print .output "\n",
        .print .output ending])
  else (.ok (), [.print .error (plainTable checks), .print .error ending])

end Diagnosis

end CommandShell
