import CommandShell.Console.Layout
import CommandShell.Console.Markup
import CommandShell.Event

/-!
What a run shows: the events of a run become the texts on each stream. A console with styles resolves
markup, emoji and tabs, and a console without them writes every text as it is. The styles are those of
rich 15.0.0; older releases drop the blanks at the end of a line that do not fit on it.
-/

namespace CommandShell

/-- Whether texts are styled, and the least severity of the log records that are shown. -/
structure Console where
  styled : Bool
  threshold : Severity
  deriving DecidableEq, Repr

namespace Console

/-- A console that shows texts as they are. -/
def plain : Console := ⟨false, .warning⟩

/-- The columns of a console. -/
def width : Nat := 80

/-- A command's text in a report: a styled console replaces emoji and tabs but never breaks a line. -/
def report (styled : Bool) (text : String) : String :=
  if styled then
    String.ofList (Layout.join ((Layout.lines (Markup.visible text.toList)).map Layout.expandTabs))
  else text ++ "\n"

/-- A text with markup: a styled console shows what is between the tags, in lines that fit. -/
def announce (styled : Bool) (markup : String) : Except Failure String :=
  if styled then do
    let text ← Markup.styled markup.toList
    return String.ofList (Layout.join (← text.paragraph .fold width))
  else .ok (markup ++ "\n")

/-- The report of a command that started. -/
def startedText (text : String) : String := "Successfully executed command: " ++ text

/-- The report of a command that did not start. -/
def failedText (text : String) : String := "Error: Failed to execute command: " ++ text

/-- The report of the end of a session. -/
def closedText : String := "Exiting Shell..."

/-- Spaces fill a text up to a length. -/
def pad (length : Nat) (text : String) : String :=
  text ++ String.ofList (List.replicate (length - text.length) ' ')

/-- The lines of a log record. -/
def logLines (thread : Thread) (notice : Notice) : List String :=
  (pad 7 notice.severity.name ++ " | " ++ thread.name ++ " | " ++ notice.message) ::
    (notice.failure?.map Failure.summary).toList

end Console

/-- The texts that a run leaves on each stream. -/
structure Screen where
  output : String
  error : String
  workerLog : List String
  sleeps : List Binary64
  questions : List (String × String)
  hostOutput : String
  deriving DecidableEq, Repr

namespace Screen

/-- A screen without any text. -/
def blank : Screen := ⟨"", "", [], [], [], ""⟩

/-- Two screens, one after the other. -/
def append (first second : Screen) : Screen where
  output := first.output ++ second.output
  error := first.error ++ second.error
  workerLog := first.workerLog ++ second.workerLog
  sleeps := first.sleeps ++ second.sleeps
  questions := first.questions ++ second.questions
  hostOutput := first.hostOutput ++ second.hostOutput

/-- A log record on the shell's own thread goes to the error stream, between the other texts there. -/
def ofLog (console : Console) (thread : Thread) (notice : Notice) : Screen :=
  if notice.severity.rank < console.threshold.rank then blank
  else
    let lines := Console.logLines thread notice
    if thread = .main then { blank with error := String.join (lines.map (· ++ "\n")) }
    else { blank with workerLog := lines }

/-- What one event shows. -/
def ofEvent (console : Console) : Event → Screen
  | .log thread notice => ofLog console thread notice
  | .started text _ => { blank with output := Console.report console.styled (Console.startedText text) }
  | .failed text => { blank with error := Console.report console.styled (Console.failedText text) }
  | .closed => { blank with output := Console.report console.styled Console.closedText }
  | .ask question mark => { blank with questions := [(question, mark)] }
  | .deed (.write text) => { blank with output := text }
  | .deed (.sleep duration) => { blank with sleeps := [duration] }
  | .hostOutput text => { blank with hostOutput := text }
  | .print .output text => { blank with output := text }
  | .print .error text => { blank with error := text }
  | .deed .flush => blank
  | .dispatch _ => blank
  | .wait => blank
  | .prompt _ => blank

/-- What events show, in order. -/
def ofEvents (console : Console) (events : List Event) : Screen :=
  events.foldr (fun event screen => (ofEvent console event).append screen) blank

end Screen

end CommandShell
