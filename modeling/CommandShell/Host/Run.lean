import CommandShell.Host.Bytes

/-!
What a program of the host leaves behind.
-/

namespace CommandShell.Host

/-- A text that a program writes to one of its streams. -/
inductive Part where
  | output (text : Bytes)
  | complaint (text : Bytes)
  deriving DecidableEq, Repr

/-- What a program writes, in order, and its status. The status of a program that a signal ended is the number
of the signal below zero. -/
structure Run where
  parts : List Part
  status : Int
  deriving DecidableEq, Repr

namespace Run

/-- A run that writes nothing. -/
def silent (status : Int) : Run := ⟨[], status⟩

/-- A run that only writes its output. -/
def writes (output : Bytes) : Run := ⟨[.output output], 0⟩

/-- The output of a run. -/
def output (run : Run) : Bytes :=
  run.parts.flatMap fun part => match part with
    | .output text => text
    | .complaint _ => []

/-- The complaints of a run. -/
def complaints (run : Run) : Bytes :=
  run.parts.flatMap fun part => match part with
    | .output _ => []
    | .complaint text => text

end Run

end CommandShell.Host
