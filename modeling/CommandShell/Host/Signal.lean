import CommandShell.Host.Bytes

/-!
Signals by number and by name, and what a process does that gets one.
-/

namespace CommandShell.Host.Signal

/-- The names of the signals from zero, the end of a script, up to the last one with a name of its
own. -/
def firstNames : List String := [
  "EXIT", "HUP", "INT", "QUIT", "ILL", "TRAP", "ABRT", "BUS", "FPE", "KILL", "USR1", "SEGV", "USR2",
  "PIPE", "ALRM", "TERM", "16", "CHLD", "CONT", "STOP", "TSTP", "TTIN", "TTOU", "URG", "XCPU", "XFSZ",
  "VTALRM", "PROF", "WINCH", "IO", "PWR", "SYS", "32", "33"]

/-- The names of the signals for programs to use, after those. -/
def laterNames : List String :=
  ["RTMIN"] ++ (List.range 15).map (fun place => "RTMIN+" ++ toString (place + 1)) ++
    (List.range 14).map (fun place => "RTMAX-" ++ toString (14 - place)) ++ ["RTMAX"]

/-- The names of all signals in the order of their numbers. -/
def names : List Bytes := (firstNames ++ laterNames).map Bytes.ofString

/-- The number of the end of a script. -/
def exit : Nat := 0

/-- The signal that ends a process at once. -/
def kill : Nat := 9

/-- The signal of a process that writes to a stream without readers. -/
def pipe : Nat := 13

/-- The signal of a process that makes a document too large. -/
def tooLarge : Nat := 25

/-- The signals that a terminal sends, which do not reach commands in the background. -/
def fromTerminal : List Nat := [2, 3]

/-- The signal that is sent when no other one is asked for. -/
def term : Nat := 15

/-- The signal with a number or a name, the least number being given. Case does not matter. -/
def ofText? (least : Nat) (text : Bytes) : Option Nat :=
  if !text.isEmpty && text.all Char.isDigit then
    let number := text.foldl (fun number digit => 10 * number + (digit.toNat - '0'.toNat)) 0
    if number < names.length then some number else none
  else
    ((names.zipIdx.drop least).find? fun named => named.1 == Bytes.upper text).map (·.2)

/-- What is said of a process that a signal ended, for the signals from the first one on. -/
def endTexts : List String := [
  "Hangup", "Interrupt", "Quit", "Illegal instruction", "Trace/breakpoint trap", "Aborted",
  "Bus error", "Floating point exception", "Killed", "User defined signal 1", "Segmentation fault",
  "User defined signal 2", "Broken pipe", "Alarm clock", "Terminated", "Stack fault", "Child exited",
  "Continued", "Stopped (signal)", "Stopped", "Stopped (tty input)", "Stopped (tty output)",
  "Urgent I/O condition", "CPU time limit exceeded", "File size limit exceeded",
  "Virtual timer expired", "Profiling timer expired", "Window changed", "I/O possible",
  "Power failure", "Bad system call"]

/-- The first of the signals for programs to use. -/
def firstFree : Nat := 34

/-- What is said of a process that a signal ended. -/
def endText (signal : Nat) : String :=
  if firstFree ≤ signal then "Real-time signal " ++ toString (signal - firstFree)
  else (endTexts[signal - 1]?).getD ("Unknown signal " ++ toString signal)

/-- Signals after which nothing is said. -/
def isQuiet (signal : Nat) : Bool := [2, 13].contains signal

/-- The signal of an arithmetic operation without a result. -/
def arithmetic : Nat := 8

/-- Signals that a process takes no notice of unless it asks for them. -/
def isHarmless (signal : Nat) : Bool := [0, 17, 18, 19, 20, 21, 22, 23, 28].contains signal

end CommandShell.Host.Signal
