import CommandShell.Shell

/-!
The command line of the shell. The outer layer reads what a run needs, lets the shell decide what
happens, and makes it happen.
-/

namespace CommandShell.Main

/-- The whole of the standard input. -/
partial def readAll (stream : IO.FS.Stream) (read : String) : IO String := do
  let line ← stream.getLine
  if line.isEmpty then return read else readAll stream (read ++ line)

/-- What the shell finds around it. At a terminal every line is the answer to a question. -/
def look : IO Surroundings := do
  let stream ← IO.getStdin
  let terminal ← stream.isTty
  let level? ← IO.getEnv "TASKSHELL_LOG_LEVEL"
  let input ← readAll stream ""
  let answers := (LineStream.ofText true input none).rest
  return {
    input := input
    inputFailure? := none
    terminal := terminal
    answers := ((Layout.lines answers).dropLast).map fun line => .ok (some (String.ofList line))
    promptInstalled := true
    styled := true
    levelSetting? := level?
    facts := HostFacts.usual }

/-- Show what one event shows, and sleep as long as it sleeps. -/
def perform (console : Console) (event : Event) : IO Unit := do
  let screen := Screen.ofEvent console event
  IO.print (screen.output ++ screen.hostOutput)
  IO.eprint (screen.error ++ String.join (screen.workerLog.map (· ++ "\n")))
  for duration in screen.sleeps do
    IO.sleep (UInt32.ofNat duration.wholeMilliseconds)

end CommandShell.Main

/-- Run the shell on the arguments of the process. -/
def main (arguments : List String) : IO UInt32 := do
  let report := CommandShell.Shell.run (← CommandShell.Main.look) arguments
  report.events.forM (CommandShell.Main.perform report.console)
  return UInt32.ofNat (report.ending.toOption.getD CommandShell.Shell.failureCode)
