import CommandShell.Proofs.Console.Screen
import CommandShell.Proofs.LineSource.Stream
import CommandShell.Proofs.Session.Loop
import CommandShell.Proofs.TaskTable.Emission
import CommandShell.Proofs.TaskTable.Settled
import CommandShell.Shell

/-!
One line that is given to the shell by itself, and the same line as the whole input of a session.
The session runs it from the same table, and adds two prompts and the report of its end.
-/

namespace CommandShell

namespace Session

variable {Tasks : Type} {executor : Executor Tasks} {tasks later : Tasks} {line : String}

/-- How a session on a stream asks for its next line. -/
def asking (counter : Int) : List Event := [.deed (.write (promptText counter)), .deed .flush]

/-- A stream that holds one line, with its end. -/
def oneLine (line : String) : LineStream := ⟨line.toList ++ ['\n'], none⟩

theorem read_oneLine (unbroken : LineStream.Unbroken line.toList) (counter : Int) :
    LineStream.source.read (promptText counter) (oneLine line) =
      ⟨.ok (some line), ⟨[], none⟩, asking counter⟩ := by
  have read := unbroken.read_feed (promptText counter) [] none
  rwa [String.ofList_toList] at read

/-- A session that reads one line runs it and finds the input at its end. -/
theorem run_oneLine {launches : List Launch} {events : List Event}
    (unbroken : LineStream.Unbroken line.toList) (stays : isExit line = false)
    (ran : Sequencer.run executor (Command.ofLine line) tasks = ⟨.ok launches, later, events⟩) :
    run LineStream.source executor (fresh (oneLine line) tasks) =
      ⟨.ok (), ⟨2, ⟨[], none⟩, later⟩,
        .log .main .sessionStarted :: (asking 1 ++ events ++ asking 2 ++ farewell none)⟩ := by
  have running : runLine executor line (Session.mk 1 (LineStream.mk [] none) tasks) =
      ⟨.ok launches, ⟨2, ⟨[], none⟩, later⟩, events⟩ := by simp [runLine, ran]
  have first : loop LineStream.source executor (fresh (oneLine line) tasks) = _ :=
    loop_continued stays (read_oneLine unbroken 1) running
  have second : loop LineStream.source executor ⟨2, ⟨[], none⟩, later⟩ = _ :=
    loop_ended ends_none (LineStream.read_nil (promptText 2))
  rw [run, first, second]
  simp [Outcome.after, asking]

/-- A session that reads a keyword runs nothing. -/
theorem run_keyword (unbroken : LineStream.Unbroken line.toList) (exits : isExit line = true) :
    run LineStream.source executor (fresh (oneLine line) tasks) =
      ⟨.ok (), ⟨1, ⟨[], none⟩, tasks⟩,
        .log .main .sessionStarted :: (asking 1 ++ farewell (some line))⟩ := by
  have first : loop LineStream.source executor (fresh (oneLine line) tasks) = _ :=
    loop_ended (ends_some_iff.2 exits) (read_oneLine unbroken 1)
  rw [run, first]
  rfl

end Session

namespace Shell

/-- The options that run a line on the programs of the shell itself. -/
def lineOptions (line : String) : Options :=
  { Options.default with command? := some (.text line), executor := .text "builtin" }

/-- The options that run the input on the programs of the shell itself. -/
def inputOptions : Options := { Options.default with executor := .text "builtin", plain := true }

/-- What the shell does when it is given a line and shows the records that it shows by default. -/
def runGiven (surroundings : Surroundings) (line : String) : Report :=
  runOptions surroundings (lineOptions line) .warning

/-- What it does when the line is its whole input. -/
def runTyped (surroundings : Surroundings) (line : String) : Report :=
  runOptions { surroundings with input := line ++ "\n", inputFailure? := none } inputOptions
    .warning

variable {surroundings : Surroundings} {line : String}

theorem runOptions_performed {options : Options} {events : List Event} {threshold : Severity}
    (plain : options.diagnose = false) (done : perform surroundings options = (.ok (), events)) :
    runOptions surroundings options threshold =
      ⟨.ok successCode, ⟨surroundings.styled, threshold⟩, events⟩ := by
  simp [runOptions, plain, done, conclude, Except.map]

theorem launcher_builtin (processes : Processes) :
    launcher (.text "builtin") processes = .ok Registry.standard.launcher := by
  simp [launcher]

theorem report_closedText (styled : Bool) :
    Console.report styled Console.closedText = "Exiting Shell...\n" := by
  cases styled with
  | false => rfl
  | true => decide

section Screens

variable {console : Console}

/-- A drain shows nothing where debug records are not shown. -/
theorem ofEvents_drain (quiet : console.threshold = .warning) (table : TaskTable) :
    Screen.ofEvents console (TaskTable.drain table).events = Screen.blank := by
  refine Screen.ofEvents_of_silent fun event inside => ?_
  exact TaskTable.drain_emits (TaskTable.waitAny_emits fun _ _ => Screen.silent_log quiet rfl)
    table event inside

theorem ofEvents_asking (counter : Int) :
    Screen.ofEvents console (Session.asking counter) =
      { Screen.blank with output := Session.promptText counter } :=
  Screen.append_blank _

theorem ofEvents_farewell (quiet : console.threshold = .warning) (line? : Option String) :
    Screen.ofEvents console (Session.farewell line?) =
      { Screen.blank with output := "Exiting Shell...\n" } := by
  have silent : Screen.Silent console (.log .main (.sessionEnded line?.isNone)) :=
    Screen.silent_log quiet rfl
  rw [Session.farewell, silent.ofEvents_cons, ← report_closedText console.styled]
  exact Screen.append_blank _

/-- The start of a session shows nothing. -/
theorem ofEvents_opened (quiet : console.threshold = .warning) (events : List Event) :
    Screen.ofEvents console (.log .main (.shellOpened "builtin" "StreamLineSource") ::
      .log .main .sessionStarted :: events) = Screen.ofEvents console events := by
  have opened : Screen.Silent console (.log .main (.shellOpened "builtin" "StreamLineSource")) :=
    Screen.silent_log quiet rfl
  have started : Screen.Silent console (.log .main .sessionStarted) := Screen.silent_log quiet rfl
  rw [opened.ofEvents_cons, started.ofEvents_cons]

end Screens

theorem runTyped_eq (unbroken : LineStream.Unbroken line.toList)
    {session : Session LineStream TaskTable} {events : List Event}
    (goes : Session.run LineStream.source (TaskTable.executor Registry.standard.launcher)
      (Session.fresh (Session.oneLine line) TaskTable.empty) = ⟨.ok (), session, events⟩) :
    runTyped surroundings line = ⟨.ok successCode, ⟨surroundings.styled, .warning⟩,
      .log .main (.shellOpened "builtin" "StreamLineSource") :: events⟩ := by
  refine runOptions_performed rfl ?_
  have stream : LineStream.ofText true (line ++ "\n") none = Session.oneLine line :=
    unbroken.ofText_feed none
  simp only [perform, inputOptions, Options.default, launcher_builtin, Bool.true_or, ↓reduceIte,
    runSession, stream, goes, executorName]

theorem runGiven_eq {events : List Event} {table : TaskTable}
    (goes : runCommand Registry.standard.launcher line = ⟨.ok (), table, events⟩) :
    runGiven surroundings line =
      ⟨.ok successCode, ⟨surroundings.styled, .warning⟩, events⟩ := by
  refine runOptions_performed rfl ?_
  simp only [perform, lineOptions, Options.default, launcher_builtin, goes]

/-- A line that is no keyword is run by itself up to its end, and then its tasks are waited for. -/
theorem runCommand_eq {launcher : Launcher} {launches : List Launch} {table later : TaskTable}
    {events drained : List Event} (stays : Session.isExit line = false)
    (ran : Sequencer.run (TaskTable.executor launcher) (Command.ofLine line) TaskTable.empty =
      ⟨.ok launches, table, events⟩) (drains : TaskTable.drain table = ⟨.ok (), later, drained⟩) :
    runCommand launcher line = ⟨.ok (), later, events ++ drained⟩ := by
  have running : Session.runLine (TaskTable.executor launcher) line
      (Session.fresh () TaskTable.empty) = ⟨.ok launches, ⟨2, (), table⟩, events⟩ := by
    simp [Session.runLine, Session.fresh, ran]
  simp [runCommand, stays, running, drains, Outcome.after]

/-- A line that is no keyword shows in a session what it shows by itself, between two prompts and
before the report of the end. -/
theorem screen_of_stays (unbroken : LineStream.Unbroken line.toList)
    (stays : Session.isExit line = false) :
    (runGiven surroundings line).ending = .ok successCode ∧
      (runTyped surroundings line).ending = .ok successCode ∧
      (runTyped surroundings line).screen =
        { (runGiven surroundings line).screen with
          output := "shell[1]% " ++ (runGiven surroundings line).screen.output ++ "shell[2]% " ++
            "Exiting Shell...\n" } := by
  obtain ⟨launches, table, events, ran, settled⟩ :=
    TaskTable.settled_empty.exists_run Registry.standard_immediate (Command.ofLine line)
  obtain ⟨later, drained, drains⟩ := settled.exists_drain
  -- The run of the commands is the same; what follows it is a drain here and a prompt there.
  have given : runGiven surroundings line = ⟨.ok successCode, ⟨surroundings.styled, .warning⟩,
      events ++ drained⟩ := runGiven_eq (runCommand_eq stays ran drains)
  have typed := @runTyped_eq surroundings line unbroken _ _ (Session.run_oneLine unbroken stays ran)
  have silent : Screen.ofEvents ⟨surroundings.styled, .warning⟩ drained = Screen.blank := by
    have events : (TaskTable.drain table).events = drained := by rw [drains]
    rw [← events]
    exact ofEvents_drain rfl table
  rw [given, typed]
  refine ⟨rfl, rfl, ?_⟩
  rw [Report.screen, Report.screen, ofEvents_opened rfl, Screen.ofEvents_append,
    Screen.ofEvents_append, Screen.ofEvents_append, Screen.ofEvents_append, silent,
    Screen.append_blank, ofEvents_asking, ofEvents_asking, ofEvents_farewell rfl]
  have first : Session.promptText 1 = "shell[1]% " := rfl
  have second : Session.promptText 2 = "shell[2]% " := rfl
  simp [Screen.append, Screen.blank, first, second, String.append_assoc]

/-- A keyword does nothing by itself, and in a session it follows the first prompt. -/
theorem screen_of_exits (unbroken : LineStream.Unbroken line.toList)
    (exits : Session.isExit line = true) :
    (runGiven surroundings line).ending = .ok successCode ∧
      (runTyped surroundings line).ending = .ok successCode ∧
      (runGiven surroundings line).events = [] ∧
      (runTyped surroundings line).screen =
        { Screen.blank with output := "shell[1]% Exiting Shell...\n" } := by
  have nothing : runCommand Registry.standard.launcher line = ⟨.ok (), TaskTable.empty, []⟩ :=
    if_pos exits
  have given : runGiven surroundings line = _ := runGiven_eq nothing
  have typed := @runTyped_eq surroundings line unbroken _ _ (Session.run_keyword unbroken exits)
  rw [given, typed]
  refine ⟨rfl, rfl, rfl, ?_⟩
  rw [Report.screen, ofEvents_opened rfl, Screen.ofEvents_append, ofEvents_asking,
    ofEvents_farewell rfl]
  rfl

/-- A line of its own is a session of one line. With the records shown that are shown by default both
end well, and the session shows on every stream what the line shows by itself, but that its output
starts with a prompt and ends with another one and the report of the end. A keyword does nothing by
itself and ends the session at the first prompt. -/
theorem screen_of_oneLine (surroundings : Surroundings) (line : String)
    (unbroken : LineStream.Unbroken line.toList) :
    Severity.threshold false none = .ok .warning ∧
      (runGiven surroundings line).ending = .ok 0 ∧ (runTyped surroundings line).ending = .ok 0 ∧
      (Session.isExit line = false →
        (runTyped surroundings line).screen =
          { (runGiven surroundings line).screen with
            output := "shell[1]% " ++ (runGiven surroundings line).screen.output ++
              "shell[2]% " ++ "Exiting Shell...\n" }) ∧
      (Session.isExit line = true →
        (runGiven surroundings line).events = [] ∧
          (runTyped surroundings line).screen =
            { Screen.blank with output := "shell[1]% Exiting Shell...\n" }) := by
  refine ⟨by decide, ?_⟩
  by_cases exits : Session.isExit line = true
  · obtain ⟨given, typed, screens⟩ := @screen_of_exits surroundings line unbroken exits
    exact ⟨given, typed, fun stays => absurd exits (by simp [stays]), fun _ => screens⟩
  · rw [Bool.not_eq_true] at exits
    obtain ⟨given, typed, screen⟩ := @screen_of_stays surroundings line unbroken exits
    exact ⟨given, typed, fun _ => screen, fun keyword => absurd keyword (by simp [exits])⟩

/-- A line with a command that overtakes the next one, one that does not start, one that raises a
failure and one that sleeps, and a keyword. -/
theorem screen_of_mixedLine :
    let surroundings : Surroundings := ⟨"", none, false, [], true, false, none, HostFacts.usual, Host.processes⟩
    let line := "echo a& nope; sleep nan; sleep 2"
    let output := "a\nSuccessfully executed command: echo a\n" ++
      "Successfully executed command: sleep nan\nSuccessfully executed command: sleep 2\n"
    let error := "Error: Failed to execute command: nope\n"
    let workerLog := ["ERROR   | taskshell-sleep | builtin.program.error program='sleep'",
      "ValueError: Invalid value NaN (not a number)"]
    let sleeps := [Binary64.ofRatio false 2 1]
    LineStream.Unbroken line.toList ∧
      (runGiven surroundings line).screen = ⟨output, error, workerLog, sleeps, [], ""⟩ ∧
      (runTyped surroundings line).screen =
        ⟨"shell[1]% " ++ output ++ "shell[2]% " ++ "Exiting Shell...\n", error, workerLog, sleeps,
          [], ""⟩ ∧
      (runGiven surroundings "Quit").events = [] := by
  intro surroundings line output error workerLog sleeps
  have unbroken : LineStream.Unbroken line.toList := by decide
  have given : (runGiven surroundings line).screen =
      ⟨output, error, workerLog, sleeps, [], ""⟩ := by decide +kernel
  have typed := (screen_of_oneLine surroundings line unbroken).2.2.2.1 (by decide)
  rw [given] at typed
  have keyword := (screen_of_oneLine surroundings "Quit" (by decide)).2.2.2.2 (by decide)
  exact ⟨unbroken, given, typed, keyword.1⟩

end Shell

end CommandShell
