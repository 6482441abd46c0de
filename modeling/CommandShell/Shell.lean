import CommandShell.Diagnosis
import CommandShell.Host
import CommandShell.Options
import CommandShell.Registry
import CommandShell.Session

/-!
The whole shell: from a command line and its surroundings to the texts it shows and its exit code.
Every failure that a run leaves is turned into a message and a code here, unless it is fatal or its
message cannot be shown.
-/

namespace CommandShell

/-- What the shell finds around it. -/
structure Surroundings where
  input : String
  /-- The failure that stands in for the end of the input. -/
  inputFailure? : Option Failure
  terminal : Bool
  answers : List (Except Failure (Option String))
  promptInstalled : Bool
  styled : Bool
  levelSetting? : Option String
  facts : HostFacts
  /-- What starts processes: the host whose programs are known, or any other. -/
  processes : Processes := Host.processes

/-- The exit code of a run, or the failure that nothing in it answered, and what happened in it
before a console. -/
structure Report where
  ending : Except Failure Nat
  console : Console
  events : List Event

/-- What a run showed. -/
def Report.screen (report : Report) : Screen := Screen.ofEvents report.console report.events

namespace Shell

/-- The code of a run that did its work. -/
def successCode : Nat := 0

/-- The code of a run that the shell itself found at fault, or whose diagnosis failed. -/
def failureCode : Nat := 1

/-- The code of a run that met a failure nobody expected, or was called wrongly. -/
def unexpectedCode : Nat := 2

/-- The code of a run that was interrupted. -/
def interruptCode : Nat := 130

/-- The launcher with a name. -/
def launcher (name : Given) (processes : Processes := Host.processes) : Except Failure Launcher :=
  match name with
  | .nothing => .error (.unknownExecutor none Options.executors)
  | .text name =>
      if name = "subprocess" then .ok processes.launcher
      else if name = "builtin" then .ok Registry.standard.launcher
      else .error (.unknownExecutor (some name) Options.executors)

/-- Run one line and wait for all its tasks. An exit keyword does nothing. -/
def runCommand (launcher : Launcher) (line : String) : Outcome TaskTable Unit :=
  if Session.isExit line then ⟨.ok (), TaskTable.empty, []⟩
  else
    let session : Session Unit TaskTable := Session.fresh () TaskTable.empty
    match Session.runLine (TaskTable.executor launcher) line session with
    | ⟨.error failure, session, events⟩ => ⟨.error failure, session.tasks, events⟩
    | ⟨.ok _, session, events⟩ => (TaskTable.drain session.tasks).after events

/-- Run a session on a source of lines, and record where the lines come from. -/
def runSession {Lines : Type} (executorName sourceName : String) (launcher : Launcher)
    (source : LineSource Lines) (lines : Lines) : Except Failure Unit × List Event :=
  let outcome := Session.run source (TaskTable.executor launcher)
    (Session.fresh lines TaskTable.empty)
  (outcome.answer, .log .main (.shellOpened executorName sourceName) :: outcome.events)

/-- The name of an executor. -/
def executorName : Given → String
  | .text name => name
  | .nothing => ""

/-- Do what the options ask for, when it is no diagnosis. -/
def perform (surroundings : Surroundings) (options : Options) :
    Except Failure Unit × List Event :=
  match launcher options.executor surroundings.processes with
  | .error failure => (.error failure, [])
  | .ok launcher =>
      match options.command? with
      | some .nothing => (.error .noLine, [])
      | some (.text line) =>
          let outcome := runCommand launcher line
          (outcome.answer, outcome.events)
      | none =>
          let name := executorName options.executor
          if options.plain || !surroundings.terminal then
            runSession name "StreamLineSource" launcher LineStream.source
              (LineStream.ofText true surroundings.input surroundings.inputFailure?)
          else
            match Prompter.open? surroundings.terminal surroundings.promptInstalled
              surroundings.answers with
            | .error failure => (.error failure, [])
            | .ok prompter =>
                runSession name "QuestionaryLineSource" launcher Prompter.source prompter

/-- The messages about a failure, with markup, and the exit code. -/
def concede (failure : Failure) : List String × Nat :=
  match failure.family? with
  | some _ =>
      let hint := match failure.hint? with
        | some hint => if hint.isEmpty then [] else ["[yellow]Hint:[/yellow] " ++ hint]
        | none => []
      (("[bold red]Error:[/bold red] " ++ failure.message) :: hint, failureCode)
  | none =>
      if failure.isInterruption then (["\n[yellow]Aborted by user.[/yellow]"], interruptCode)
      else
        (["[bold red]Unexpected error.[/bold red] Please report this issue.\n  " ++
          failure.summary], unexpectedCode)

/-- Show messages, and keep the exit code if every one of them can be shown. -/
def announceAll (styled : Bool) (code : Nat) : List String → Except Failure Nat × List Event
  | [] => (.ok code, [])
  | markup :: rest =>
      match Console.announce styled markup with
      | .error failure => (.error failure, [])
      | .ok text =>
          let (ending, events) := announceAll styled code rest
          (ending, .print .error text :: events)

/-- The ending and the last events of a run. A fatal failure is not answered. -/
def conclude (styled : Bool) (answer : Except Failure Nat) : Except Failure Nat × List Event :=
  match answer with
  | .ok code => (.ok code, [])
  | .error failure =>
      if failure.isFatal then (.error failure, [])
      else announceAll styled (concede failure).2 (concede failure).1

/-- The code of a diagnosis. -/
def diagnosisCode (checks : List Check) : Nat :=
  if Diagnosis.fails checks then failureCode else successCode

/-- Run the shell with options that were read, and records of some severity shown. -/
def runOptions (surroundings : Surroundings) (options : Options) (threshold : Severity) : Report :=
  let (answer, events) : Except Failure Nat × List Event :=
    if options.diagnose then
      let checks := Diagnosis.checks surroundings.facts surroundings.terminal
      let (answer, events) := Diagnosis.report surroundings.styled checks
      (answer.map fun _ => diagnosisCode checks, events)
    else
      let (answer, events) := perform surroundings options
      (answer.map fun _ => successCode, events)
  let (ending, more) := conclude surroundings.styled answer
  ⟨ending, ⟨surroundings.styled, threshold⟩, events ++ more⟩

/-- What a shell shows that does not run at all: the code, the stream and the text. -/
def farewell : Halt → Nat × Channel × String
  | .help => (successCode, .output, Options.help)
  | .version => (successCode, .output, "taskshell " ++ Diagnosis.shellVersion ++ "\n")
  | .misuse misuse =>
      (unexpectedCode, .error, Options.usage ++ "taskshell: error: " ++ misuse.message ++ "\n")

/-- Run the shell on a command line. -/
def run (surroundings : Surroundings) (arguments : List String) : Report :=
  match Options.parse arguments with
  | .error halt =>
      let (code, channel, text) := farewell halt
      ⟨.ok code, Console.plain, [.print channel text]⟩
  | .ok options =>
      match Severity.threshold options.verbose surroundings.levelSetting? with
      | .ok threshold => runOptions surroundings options threshold
      | .error failure =>
          let (ending, events) := conclude surroundings.styled (.error failure)
          ⟨ending, ⟨surroundings.styled, .warning⟩, events⟩

end Shell

end CommandShell
