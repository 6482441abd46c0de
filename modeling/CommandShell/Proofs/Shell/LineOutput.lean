import CommandShell.Proofs.Console.Entries
import CommandShell.Proofs.Shell.SingleLine

/-!
What one line shows on the shell's own programs. Each command adds its part, in the order of the line:
what its program writes and a report that it started, or a report that it did not. No command changes
what another one adds.
-/

namespace CommandShell

/-- The program that every shell has under a name, in any case of letters. -/
def Program.standard? (name : String) : Option Program :=
  if lowerCase name = "pingpong" then some pingPong
  else if lowerCase name = "echo" then some echo
  else if lowerCase name = "sleep" then some sleep
  else none

theorem Registry.find?_standard (name : String) :
    Registry.standard.find? name = Program.standard? name := by
  have entries : Registry.standard.entries =
      [("echo", Program.echo), ("pingpong", Program.pingPong), ("sleep", Program.sleep)] := rfl
  rw [find?, entries, Program.standard?]
  generalize lowerCase name = lower
  by_cases ping : lower = "pingpong"
  · subst ping
    rfl
  · by_cases echo : lower = "echo"
    · subst echo
      rfl
    · by_cases sleep : lower = "sleep"
      · subst sleep
        rfl
      · have notEcho : ("echo" == lower) = false := beq_eq_false_iff_ne.2 (Ne.symm echo)
        have notPing : ("pingpong" == lower) = false := beq_eq_false_iff_ne.2 (Ne.symm ping)
        have notSleep : ("sleep" == lower) = false := beq_eq_false_iff_ne.2 (Ne.symm sleep)
        simp only [List.find?, notEcho, notPing, notSleep, if_neg ping, if_neg echo, if_neg sleep,
          Option.map_none]

/-- The text of a deed that writes. -/
def Deed.text : Deed → String
  | write text => text
  | _ => ""

/-- What the program does that words name, with the other words. -/
def Program.course? : List String → Option Course
  | [] => none
  | name :: arguments => (standard? name).map (· arguments)

namespace Command

/-- What the program of a command does. -/
def course? (command : Command) : Option Course := Program.course? command.words

/-- What a command adds to the output. -/
def output (command : Command) : String :=
  match command.course? with
  | some course => String.join (course.deeds.map Deed.text) ++
      ("Successfully executed command: " ++ command.text ++ "\n")
  | none => ""

/-- What a command adds to the error stream. -/
def complaint (command : Command) : String :=
  match command.course? with
  | some _ => ""
  | none => "Error: Failed to execute command: " ++ command.text ++ "\n"

/-- How long the program of a command sleeps, and how often. -/
def sleeps (command : Command) : List Binary64 :=
  match command.course? with
  | some course => course.deeds.filterMap Deed.sleep?
  | none => []

/-- What happens for a command, apart from log records, when so many tasks were accepted before. -/
def happens (accepted : Nat) (command : Command) : List Event :=
  match command.course? with
  | some course => course.deeds.map .deed ++ [.started command.text (accepted + 1)]
  | none => [.failed command.text]

/-- How many tasks are accepted for a command. -/
def starts (command : Command) : Nat := if command.course?.isSome then 1 else 0

/-- What happens for commands, one after the other. -/
def happenAll (accepted : Nat) : List Command → List Event
  | [] => []
  | command :: rest => command.happens accepted ++ happenAll (accepted + command.starts) rest

end Command

namespace Event

/-- The text of a command that is reported, and whether it started. -/
def reported? : Event → Option (String × Bool)
  | .started text _ => some (text, true)
  | .failed text => some (text, false)
  | _ => none

end Event

/-- Every command is reported once. -/
theorem Command.reported_happenAll (accepted : Nat) (commands : List Command) :
    (happenAll accepted commands).filterMap Event.reported? =
      commands.map fun command => (command.text, command.course?.isSome) := by
  induction commands generalizing accepted with
  | nil => rfl
  | cons command rest ih =>
      have first : (command.happens accepted).filterMap Event.reported? =
          [(command.text, command.course?.isSome)] := by
        rcases found : command.course? with _ | course
        · simp [happens, found, Event.reported?]
        · have deeds : (course.deeds.map Event.deed).filterMap Event.reported? = [] :=
            List.filterMap_eq_nil_iff.2 (by simp [Event.reported?])
          simp [happens, found, deeds, Event.reported?]
      rw [happenAll, List.filterMap_append, first, ih, List.map_cons, List.singleton_append]

/-- Deeds are no log records. -/
theorem Event.filter_isLog_deeds (deeds : List Deed) :
    (deeds.map Event.deed).filter (!·.isLog) = deeds.map .deed :=
  List.filter_eq_self.2 (by simp [isLog])

section Shown

variable {console : Console}

theorem Screen.ofEvents_deeds (console : Console) (deeds : List Deed) :
    Screen.ofEvents console (deeds.map .deed) =
      { Screen.blank with
        output := String.join (deeds.map Deed.text), sleeps := deeds.filterMap Deed.sleep? } := by
  induction deeds with
  | nil => rfl
  | cons deed rest ih =>
      rw [List.map_cons, Screen.ofEvents_cons, ih]
      cases deed <;>
        simp [Screen.ofEvent, Screen.append, Screen.blank, Deed.text, Deed.sleep?, List.filterMap_cons]

/-- A command shows its part where texts are not styled. -/
theorem Screen.ofEvents_happens (plain : console.styled = false) (accepted : Nat)
    (command : Command) :
    Screen.ofEvents console (command.happens accepted) =
      { Screen.blank with
        output := command.output, error := command.complaint, sleeps := command.sleeps } := by
  rcases found : command.course? with _ | course
  · have failed : Console.report console.styled (Console.failedText command.text) =
        "Error: Failed to execute command: " ++ command.text ++ "\n" := by
      rw [plain]
      rfl
    have happens : command.happens accepted = [.failed command.text] := by
      rw [Command.happens, found]
    have shown : ofEvents console [.failed command.text] =
        { blank with error := Console.report console.styled (Console.failedText command.text) } :=
      append_blank _
    rw [happens, shown, failed, Command.output, Command.complaint, Command.sleeps, found]
    rfl
  · have started : Console.report console.styled (Console.startedText command.text) =
        "Successfully executed command: " ++ command.text ++ "\n" := by
      rw [plain]
      rfl
    have happens : command.happens accepted =
        course.deeds.map .deed ++ [.started command.text (accepted + 1)] := by
      rw [Command.happens, found]
    have shown : ofEvents console [.started command.text (accepted + 1)] =
        { blank with output := Console.report console.styled (Console.startedText command.text) } :=
      append_blank _
    rw [happens, ofEvents_append, ofEvents_deeds, shown, started, Command.output,
      Command.complaint, Command.sleeps, found]
    simp only [append, blank, String.append_empty, List.append_nil]

theorem Screen.ofEvents_happenAll (plain : console.styled = false) (accepted : Nat)
    (commands : List Command) :
    Screen.ofEvents console (Command.happenAll accepted commands) =
      { Screen.blank with
        output := String.join (commands.map Command.output)
        error := String.join (commands.map Command.complaint)
        sleeps := commands.flatMap Command.sleeps } := by
  induction commands generalizing accepted with
  | nil => rfl
  | cons command rest ih =>
      rw [Command.happenAll, ofEvents_append, ofEvents_happens plain, ih]
      simp [append, blank]

end Shown

namespace Registry

/-- An executor that does what programs do and only counts its tasks. -/
def counter : Executor Nat := Sequencer.startsOnly fun words accepted =>
  match Program.course? words with
  | some course => ⟨.ok (some (accepted + 1 : Nat)), accepted + 1, course.deeds.map .deed⟩
  | none => ⟨.ok none, accepted, []⟩

theorem filter_isLog_course (task : TaskId) (name : String) (course : Course) :
    (TaskTable.Job.course task (course.job name)).filter (!·.isLog) = course.deeds.map .deed := by
  have records : (course.ending.records name).filter (!·.isLog) = [] := by
    refine List.filter_eq_nil_iff.2 fun event inside => ?_
    rcases ending : course.ending with status? | failure | _
    · simp [ending, Ending.records] at inside
    · rw [ending, Ending.records, Failure.mem_records_iff] at inside
      simp [inside.2, Event.isLog]
    · simp [ending, Ending.records] at inside
  have ended : (TaskTable.ended task (course.job name).join).filter (!·.isLog) = [] := rfl
  have events : (course.job name).events =
      course.deeds.map .deed ++ course.ending.records name := rfl
  rw [TaskTable.Job.course, List.filter_append, events, List.filter_append,
    Event.filter_isLog_deeds, records, ended, List.append_nil, List.append_nil]

section Dispatch

variable {name : String} {arguments : List String} {table : TaskTable} {program : Program}

theorem dispatch_standard_none (missing : Program.standard? name = none) :
    (TaskTable.executor standard.launcher).dispatch (name :: arguments) table =
      ⟨.ok none, table,
        [.log .main (.startRefused name (.unknownProgram name standard.names))]⟩ :=
  TaskTable.dispatch_refused table
    (reply_of_find?_eq_none ((find?_standard name).trans missing))

theorem dispatch_standard_some (found : Program.standard? name = some program) :
    (TaskTable.executor standard.launcher).dispatch (name :: arguments) table =
      let job := (program arguments).job name
      ⟨.ok (some table.nextTask), (table.accept (name :: arguments) job).finish table.nextTask,
        TaskTable.Job.course table.nextTask job ++
          [.log .main (.taskStarted table.nextTask (name :: arguments))]⟩ := by
  have reply : standard.launcher.reply (name :: arguments) = _ :=
    reply_of_find?_eq_some ((find?_standard name).trans found)
  exact TaskTable.dispatch_started table reply (standard_immediate.ungated _ _ reply)

end Dispatch

/-- Apart from log records a request does what the program of its words does. -/
theorem dispatch_seen (words : List String) (table : TaskTable) :
    ((TaskTable.executor standard.launcher).dispatch words table).seen (·.accepted) (!·.isLog) =
      (counter.dispatch words table.accepted).seen id (!·.isLog) := by
  rcases words with _ | ⟨name, arguments⟩
  · rfl
  · rcases found : Program.standard? name with _ | program
    · rw [dispatch_standard_none found]
      simp [counter, Sequencer.startsOnly, Program.course?, found, Outcome.seen, Event.isLog]
    · have course := filter_isLog_course table.nextTask name (program arguments)
      have started : [Event.log .main (.taskStarted table.nextTask (name :: arguments))].filter
          (!·.isLog) = [] := rfl
      rw [dispatch_standard_some found]
      simp only [counter, Sequencer.startsOnly, Program.course?, found, Outcome.seen,
        Option.map_some, List.filter_append, course, started, Event.filter_isLog_deeds,
        List.append_nil, id_eq]
      rfl

/-- Waits are only recorded. -/
theorem hidden :
    Sequencer.Hidden (TaskTable.executor standard.launcher) (·.accepted) (!·.isLog) := by
  constructor
  case state =>
    intro table
    rcases waited : TaskTable.waitAny table with ⟨failure | task, later, events⟩
    · obtain ⟨_, _, rfl, _⟩ := TaskTable.waitAny_eq_error_iff.1 waited
      simp [TaskTable.executor, waited]
    · obtain ⟨_, _, rfl, _⟩ := TaskTable.waitAny_eq_ok_iff.1 waited
      simp [TaskTable.executor, waited]
  case events =>
    have logs : TaskTable.waitAny.Emits fun event => (!event.isLog) = false :=
      TaskTable.waitAny_emits fun _ _ => rfl
    exact logs
  case matched => exact fun _ => rfl
  case discarded => exact fun _ _ => rfl

theorem exists_start_counter (accepted : Nat) (command : Command) :
    ∃ launch told,
      Sequencer.start counter command accepted = ⟨.ok launch, accepted + command.starts, told⟩ ∧
        told.filter (!·.isLog) = command.happens accepted := by
  rcases found : Program.course? command.words with _ | course
  · have asked : counter.dispatch command.words accepted = ⟨.ok none, accepted, []⟩ := by
      simp [counter, Sequencer.startsOnly, found]
    have started : Sequencer.start counter command accepted = ⟨.ok ⟨command, none⟩, accepted, _⟩ :=
      Sequencer.start_eq_ok_iff.2 ⟨[], asked, rfl, rfl⟩
    have zero : command.starts = 0 := by simp [Command.starts, Command.course?, found]
    refine ⟨⟨command, none⟩, _, by rw [zero]; exact started, ?_⟩
    simp [Launch.report, Command.happens, Command.course?, found, Event.isLog]
  · have asked : counter.dispatch command.words accepted =
        ⟨.ok (some (accepted + 1 : Nat)), accepted + 1, course.deeds.map .deed⟩ := by
      simp [counter, Sequencer.startsOnly, found]
    have started : Sequencer.start counter command accepted =
        ⟨.ok ⟨command, some (accepted + 1 : Nat)⟩, accepted + 1, _⟩ :=
      Sequencer.start_eq_ok_iff.2 ⟨_, asked, rfl, rfl⟩
    have one : command.starts = 1 := by simp [Command.starts, Command.course?, found]
    refine ⟨⟨command, some (accepted + 1 : Nat)⟩, _, by rw [one]; exact started, ?_⟩
    simp only [List.filter_append, Event.filter_isLog_deeds, Command.happens, Command.course?, found]
    rfl

theorem startAll_counter (accepted : Nat) (commands : List Command) :
    ∃ launches count events,
      Sequencer.startAll counter commands accepted = ⟨.ok launches, count, events⟩ ∧
        events.filter (!·.isLog) = Command.happenAll accepted commands := by
  induction commands generalizing accepted with
  | nil => exact ⟨[], accepted, [], rfl, rfl⟩
  | cons command rest ih =>
      obtain ⟨launches, count, events, goes, happens⟩ := ih (accepted + command.starts)
      obtain ⟨launch, told, starts, shown⟩ := exists_start_counter accepted command
      refine ⟨launch :: launches, count, told ++ events, ?_, ?_⟩
      · rw [Sequencer.startAll, Step.bind_ok starts, Step.bind_ok goes]
        simp [Outcome.after]
      · rw [List.filter_append, shown, happens]
        rfl

end Registry

namespace Shell

/-- What happens in a line on the shell's own programs, apart from log records. -/
theorem exists_runCommand {line : String} (stays : Session.isExit line = false) :
    ∃ table events, runCommand Registry.standard.launcher line = ⟨.ok (), table, events⟩ ∧
      events.filter (!·.isLog) = Command.happenAll 0 (Command.ofLine line) := by
  obtain ⟨launches, table, events, ran, settled⟩ :=
    TaskTable.settled_empty.exists_run Registry.standard_immediate (Command.ofLine line)
  obtain ⟨later, drained, drains⟩ := settled.exists_drain
  refine ⟨later, events ++ drained, runCommand_eq stays ran drains, ?_⟩
  have logs : drained.filter (!·.isLog) = [] := by
    have emits : Step.Emits (fun event => event.isLog = true) TaskTable.drain :=
      TaskTable.drain_emits (TaskTable.waitAny_emits fun _ _ => rfl)
    refine List.filter_eq_nil_iff.2 fun event inside => ?_
    simp [emits table event (by rwa [drains])]
  have unblocked : Sequencer.Unblocked (TaskTable.executor Registry.standard.launcher)
      (Command.ofLine line) TaskTable.empty :=
    TaskTable.settled_empty.unblocked fun command _ => Registry.standard_immediate.ungated _
  have seen := unblocked.run_seen Registry.hidden Registry.dispatch_seen
  obtain ⟨_, _, told, goes, happens⟩ := Registry.startAll_counter 0 (Command.ofLine line)
  have same := congrArg (·.events) seen
  rw [ran] at same
  have counted : (Sequencer.startAll Registry.counter (Command.ofLine line)
      TaskTable.empty.accepted).events = told := congrArg (·.events) goes
  rw [List.filter_append, logs, List.append_nil, ← happens, ← counted]
  exact same

/-- One line on the shell's own programs, with whatever records shown. It ends well, and where texts
are not styled each stream shows the parts of the commands in the order of the line. Every command is
reported once, whatever becomes of the others. -/
theorem screen_of_commands (surroundings : Surroundings) (options : Options) (threshold : Severity)
    (line : String) (plain : surroundings.styled = false)
    (given : options.command? = some (.text line)) (builtin : options.executor = .text "builtin")
    (runs : options.diagnose = false) (stays : Session.isExit line = false) :
    let report := runOptions surroundings options threshold
    let commands := Command.ofLine line
    let entries := report.console.errorEntries report.events
    report.ending = .ok 0 ∧
      report.screen.output = String.join (commands.map Command.output) ∧
      report.screen.error = String.join (entries.map Entry.shown) ∧
      String.join ((entries.filter Entry.isText).map Entry.shown) =
        String.join (commands.map Command.complaint) ∧
      report.screen.sleeps = commands.flatMap Command.sleeps ∧
      report.events.filterMap Event.reported? =
        commands.map fun command => (command.text, command.course?.isSome) := by
  obtain ⟨table, events, goes, happens⟩ := exists_runCommand stays
  have performed : perform surroundings options = (.ok (), events) := by
    simp only [perform, builtin, launcher_builtin, given, goes]
  rw [runOptions_performed runs performed]
  intro report commands entries
  have shown : Screen.ofEvents report.console (events.filter (!·.isLog)) = _ :=
    happens ▸ Screen.ofEvents_happenAll plain 0 commands
  have streams := Screen.ofEvents_filter_isLog report.console events
  rw [shown] at streams
  obtain ⟨output, _, _, sleeps, _, _⟩ := Screen.mk.inj streams
  have complaints : String.join ((entries.filter Entry.isText).map Entry.shown) =
      String.join (commands.map Command.complaint) := by
    rw [Console.filter_isText_eq_filter_isLog, ← Screen.ofEvents_error, shown]
  have unlogged : events.filterMap Event.reported? =
      (events.filter (!·.isLog)).filterMap Event.reported? := by
    rw [List.filterMap_filter]
    refine List.filterMap_congr fun event _ => ?_
    cases event <;> rfl
  have reported : events.filterMap Event.reported? =
      commands.map fun command => (command.text, command.course?.isSome) := by
    rw [unlogged, happens]
    exact Command.reported_happenAll 0 commands
  exact ⟨rfl, output.symm, Screen.ofEvents_error _ _, complaints, sleeps.symm, reported⟩

/-- A line with a command that overtakes the next one, one that does not start, one that raises a
failure, and one that sleeps. -/
theorem screen_of_mixedCommands :
    let surroundings : Surroundings := ⟨"", none, false, [], true, false, none, HostFacts.usual, Host.processes⟩
    let line := "ECHO a& nope; sleep nan; sleep 2"
    let report := runOptions surroundings (lineOptions line) .debug
    let texts := (report.console.errorEntries report.events).filter Entry.isText
    Session.isExit line = false ∧ report.ending = .ok 0 ∧
      report.screen.output = "a\nSuccessfully executed command: ECHO a\n" ++
        "Successfully executed command: sleep nan\nSuccessfully executed command: sleep 2\n" ∧
      String.join (texts.map Entry.shown) = "Error: Failed to execute command: nope\n" ∧
      report.screen.sleeps = [Binary64.ofRatio false 2 1] := by
  intro surroundings line report texts
  have stays : Session.isExit line = false := by decide +kernel
  obtain ⟨ending, output, _, complaints, sleeps, _⟩ :=
    screen_of_commands surroundings (lineOptions line) .debug line rfl rfl rfl rfl stays
  have commands : Command.ofLine line = [⟨"ECHO a", ["ECHO", "a"], true⟩, ⟨"nope", ["nope"], false⟩,
      ⟨"sleep nan", ["sleep", "nan"], false⟩, ⟨"sleep 2", ["sleep", "2"], false⟩] := by
    decide +kernel
  rw [commands] at output complaints sleeps
  refine ⟨stays, ending, output.trans ?_, complaints.trans ?_, sleeps.trans ?_⟩
  · decide +kernel
  · decide +kernel
  · decide +kernel

end Shell

end CommandShell
