import CommandShell.Proofs.Line.Scan
import CommandShell.Proofs.LineSource.Stream
import CommandShell.Proofs.Sequencer.Agreement
import CommandShell.Proofs.Session.Loop
import CommandShell.Proofs.Shell.Launchers
import CommandShell.Proofs.TaskTable.Emission

/-!
No line asks an executor to start nothing. The commands of a line are those of the slices that a
scan of it finds, every one of them has words, and so neither a session nor a run of the whole shell
depends on what an executor says to a request without words.
-/

namespace CommandShell

/-- The executor with another answer to a request without words. -/
def Executor.answeringEmpty {State : Type} (executor : Executor State)
    (answer : Step State (Option TaskId)) : Executor State :=
  { executor with dispatch := fun words => if words = [] then answer else executor.dispatch words }

/-- Every command of a line has words. -/
theorem Command.words_ne_nil_of_mem_ofLine {line : String} {command : Command}
    (inside : command ∈ Command.ofLine line) : command.words ≠ [] := by
  obtain ⟨slice, _, holds⟩ := Line.exists_holds inside
  exact holds.words_ne_nil

namespace Session

variable {Lines Tasks : Type} {executor : Executor Tasks}

/-- No line of a session asks for the answer to a request without words. -/
theorem runLine_answeringEmpty (executor : Executor Tasks) (answer : Step Tasks (Option TaskId))
    (line : String) (session : Session Lines Tasks) :
    runLine (executor.answeringEmpty answer) line session = runLine executor line session := by
  have same : Sequencer.run (executor.answeringEmpty answer) (Command.ofLine line) =
      Sequencer.run executor (Command.ofLine line) := by
    refine Sequencer.run_congr rfl fun command inside => ?_
    exact if_neg (Command.words_ne_nil_of_mem_ofLine inside)
  rw [runLine, runLine, same]

theorem run_answeringEmpty (source : LineSource Lines) (executor : Executor Tasks)
    (answer : Step Tasks (Option TaskId)) (session : Session Lines Tasks) :
    run source (executor.answeringEmpty answer) session = run source executor session := by
  rw [run, run, loop_congr (runLine_answeringEmpty executor answer)]

end Session

/-- No event but the record that a request without words is refused. -/
def Unrefused (event : Event) : Prop := event ≠ .log .main .emptyRefused

namespace Unrefused

theorem remarks : Sequencer.Remarks Unrefused := by
  constructor
  · rintro ⟨command, _ | task⟩ <;> simp [Launch.report, Unrefused]
  · simp [Unrefused]
  · simp [Unrefused]

/-- Jobs do not refuse requests. -/
def Launches (launcher : Launcher) : Prop :=
  ∀ program arguments job, launcher program arguments = .ok job →
    ∀ event ∈ job.events, Unrefused event

variable {launcher : Launcher}

/-- Only a request without words is refused for having none. -/
theorem dispatch_emits (launches : Launches launcher) {words : List String} (named : words ≠ []) :
    (TaskTable.dispatch launcher words).Emits Unrefused := by
  obtain ⟨program, arguments, rfl⟩ := List.exists_cons_of_ne_nil named
  apply TaskTable.dispatch_emits
  case refused =>
    intro notice refused
    obtain ⟨failure, _, _, ⟨⟩⟩ | ⟨job, _, ⟨⟩⟩ := Launcher.reply_cons_eq_ok_iff.1 refused
    simp [Unrefused]
  case started => simp [Unrefused]
  case course =>
    intro job started task event inside
    obtain ⟨failure, _, _, ⟨⟩⟩ | ⟨_, launched, ⟨⟩⟩ := Launcher.reply_cons_eq_ok_iff.1 started
    rw [TaskTable.Job.course, List.mem_append] at inside
    rcases inside with during | ended
    · exact launches program arguments job launched event during
    · rcases TaskTable.mem_ended ended with ⟨_, rfl⟩ | ⟨_, rfl⟩
      · simp [Unrefused]
      · simp [Unrefused]

theorem waitAny_emits : TaskTable.waitAny.Emits Unrefused :=
  TaskTable.waitAny_emits fun _ _ => by simp [Unrefused]

theorem runLine_emits {Lines : Type} (launches : Launches launcher) (line : String) :
    (Session.runLine (TaskTable.executor launcher) line :
      Step (Session Lines TaskTable) (List Launch)).Emits Unrefused := by
  refine Session.runLine_emits (Sequencer.run_emits remarks ?_ waitAny_emits)
  exact fun command inside =>
    dispatch_emits launches (Command.words_ne_nil_of_mem_ofLine inside)

theorem run_emits {Lines : Type} {source : LineSource Lines} (launches : Launches launcher)
    (reads : ∀ prompt, (source.read prompt).Emits Unrefused) :
    (Session.run source (TaskTable.executor launcher)).Emits Unrefused := by
  intro session event inside
  rw [Session.run, Outcome.after, List.singleton_append, List.mem_cons] at inside
  rcases inside with rfl | inside
  · simp [Unrefused]
  · refine Session.loop_emits reads (runLine_emits launches) ?_ session event inside
    intro line? event inside
    obtain rfl | rfl : event = _ ∨ event = _ := by simpa [Session.farewell] using inside
    · simp [Unrefused]
    · simp [Unrefused]

theorem launches_processes (processes : Processes) : Launches processes.launcher := by
  intro program arguments job launched event inside
  obtain ⟨text, rfl⟩ := processes.written launched inside
  simp [Unrefused]

theorem launches_registry (registry : Registry) : Launches registry.launcher := by
  intro name arguments job launched event inside
  rcases registry.event_of_launcher launched inside with ⟨deed, rfl⟩ | ⟨failure, rfl⟩
  · simp [Unrefused]
  · simp [Unrefused]

theorem reads_stream (prompt : String) : (LineStream.source.read prompt).Emits Unrefused := by
  intro stream event inside
  rw [LineStream.read_events] at inside
  have either : event = .deed (.write prompt) ∨ event = .deed .flush := by simpa using inside
  rcases either with rfl | rfl <;> simp [Unrefused]

theorem reads_prompter (prompt : String) : (Prompter.source.read prompt).Emits Unrefused := by
  intro prompter event inside
  rw [Prompter.read_events, List.mem_singleton] at inside
  simp [inside, Unrefused]

end Unrefused

namespace Shell

theorem launches_of_launcher {name : Given} {processes : Processes} {found : Launcher}
    (chosen : launcher name processes = .ok found) : Unrefused.Launches found := by
  rcases launcher_eq_ok_iff.1 chosen with ⟨_, rfl⟩ | ⟨_, rfl⟩
  · exact Unrefused.launches_processes processes
  · exact Unrefused.launches_registry _

theorem runCommand_unrefused {launcher : Launcher} (launches : Unrefused.Launches launcher)
    (line : String) : ∀ event ∈ (runCommand launcher line).events, Unrefused event := by
  intro event inside
  by_cases exits : Session.isExit line
  · simp [runCommand, exits] at inside
  · have during := Unrefused.runLine_emits launches line
      (Session.fresh () TaskTable.empty : Session Unit TaskTable)
    rcases ran : Session.runLine (TaskTable.executor launcher) line
      (Session.fresh () TaskTable.empty) with ⟨failure | launches, session, events⟩
    · rw [ran] at during
      simp only [runCommand, exits, ran] at inside
      exact during event inside
    · rw [ran] at during
      simp only [runCommand, exits, ran, Outcome.after] at inside
      rcases List.mem_append.1 inside with before | after
      · exact during event before
      · exact TaskTable.drain_emits Unrefused.waitAny_emits _ event after

theorem runSession_unrefused {Lines : Type} {source : LineSource Lines} {launcher : Launcher}
    (launches : Unrefused.Launches launcher)
    (reads : ∀ prompt, (source.read prompt).Emits Unrefused) (name kind : String) (lines : Lines) :
    ∀ event ∈ (runSession name kind launcher source lines).2, Unrefused event := by
  intro event inside
  rw [runSession, List.mem_cons] at inside
  rcases inside with rfl | inside
  · simp [Unrefused]
  · exact Unrefused.run_emits launches reads _ event inside

theorem perform_unrefused (surroundings : Surroundings) (options : Options) :
    ∀ event ∈ (perform surroundings options).2, Unrefused event := by
  intro event inside
  rcases found : launcher options.executor surroundings.processes with failure | launcher
  · simp [perform, found] at inside
  · have launches := launches_of_launcher found
    rcases given : options.command? with _ | line | _
    · simp only [perform, found, given] at inside
      split at inside
      · exact runSession_unrefused launches Unrefused.reads_stream _ _ _ event inside
      · split at inside
        · exact absurd inside List.not_mem_nil
        · exact runSession_unrefused launches Unrefused.reads_prompter _ _ _ event inside
    · simp only [perform, found, given] at inside
      exact runCommand_unrefused launches line event inside
    · simp [perform, found, given] at inside

theorem announceAll_unrefused (styled : Bool) (code : Nat) (markups : List String) :
    ∀ event ∈ (announceAll styled code markups).2, Unrefused event := by
  induction markups with
  | nil => exact fun _ inside => absurd inside List.not_mem_nil
  | cons markup rest ih =>
      intro event inside
      rcases text : Console.announce styled markup with failure | text
      · simp [announceAll, text] at inside
      · simp only [announceAll, text, List.mem_cons] at inside
        rcases inside with rfl | inside
        · simp [Unrefused]
        · exact ih event inside

theorem conclude_unrefused (styled : Bool) (answer : Except Failure Nat) :
    ∀ event ∈ (conclude styled answer).2, Unrefused event := by
  rcases answer with failure | code
  · by_cases fatal : failure.isFatal
    · simp [conclude, fatal]
    · rw [conclude, if_neg fatal]
      exact announceAll_unrefused styled _ _
  · simp [conclude]

theorem report_unrefused (styled : Bool) (checks : List Check) :
    ∀ event ∈ (Diagnosis.report styled checks).2, Unrefused event := by
  cases styled with
  | false => simp [Diagnosis.report, Unrefused]
  | true => rcases table : Diagnosis.styledTable checks with failure | table <;>
      simp [Diagnosis.report, table, Unrefused]

theorem runOptions_unrefused (surroundings : Surroundings) (options : Options)
    (threshold : Severity) :
    ∀ event ∈ (runOptions surroundings options threshold).events, Unrefused event := by
  intro event inside
  by_cases diagnose : options.diagnose
  · simp only [runOptions, diagnose, ↓reduceIte] at inside
    rcases List.mem_append.1 inside with before | after
    · exact report_unrefused _ _ event before
    · exact conclude_unrefused _ _ event after
  · simp only [runOptions, diagnose] at inside
    rcases List.mem_append.1 inside with before | after
    · exact perform_unrefused _ _ event before
    · exact conclude_unrefused _ _ event after

/-- No run of the shell records that a request without words is refused. -/
theorem run_unrefused (surroundings : Surroundings) (arguments : List String) :
    ∀ event ∈ (run surroundings arguments).events, Unrefused event := by
  intro event inside
  rcases parsed : Options.parse arguments with halt | options
  · obtain rfl : event = .print (farewell halt).2.1 (farewell halt).2.2 := by
      simpa [run, parsed] using inside
    simp [Unrefused]
  · rcases level : Severity.threshold options.verbose surroundings.levelSetting? with
      failure | threshold
    · simp only [run, parsed, level] at inside
      exact conclude_unrefused _ _ event inside
    · simp only [run, parsed, level] at inside
      exact runOptions_unrefused _ _ _ event inside

/-- The commands of a line are those of its longest stretches without a delimiter, from left to
right. A stretch of blanks has none, and every other stretch has the one that its text, its words
and the mark after it make, whatever stands elsewhere on the line. Since all of them have words, it
does not matter what an executor says to a request without words, and the shell never refuses one. -/
theorem ofLine_scanned :
    (∀ line : String,
      Command.ofLine line = (Line.scan line.toList).filterMap Line.Slice.command? ∧
        (Line.scan line.toList).Pairwise
          (fun first second => first.before.length < second.before.length) ∧
        ∀ slice, slice ∈ Line.scan line.toList ↔ slice.Longest line.toList) ∧
    (∀ (line : String) (slice : Line.Slice), slice.Longest line.toList →
      (slice.command? = none ↔ Text.Blank slice.stretch) ∧
        (∀ command, slice.command? = some command → slice.Holds command) ∧
        Command.ofLine line = Line.commands slice.before ++ slice.command?.toList ++
          Line.commands slice.after.tail) ∧
    (∀ {Lines Tasks : Type} (source : LineSource Lines) (executor : Executor Tasks)
      (answer : Step Tasks (Option TaskId)) (session : Session Lines Tasks),
      (∀ line, Session.runLine (executor.answeringEmpty answer) line session =
        Session.runLine executor line session) ∧
        Session.run source (executor.answeringEmpty answer) session =
          Session.run source executor session) ∧
    ∀ (surroundings : Surroundings) (arguments : List String),
      .log .main .emptyRefused ∉ (run surroundings arguments).events := by
  refine ⟨fun line => ⟨Line.commands_eq_scan _, Line.scan_sorted _, fun slice => Line.mem_scan_iff⟩,
    fun line slice longest => ⟨Line.Slice.command?_eq_none_iff, fun command => longest.holds,
      longest.commands_eq⟩, fun source executor answer session => ⟨fun line => ?_, ?_⟩, ?_⟩
  · exact Session.runLine_answeringEmpty executor answer line session
  · exact Session.run_answeringEmpty source executor answer session
  · exact fun surroundings arguments refused => run_unrefused surroundings arguments _ refused rfl

/-- The mark after a stretch makes its mode, also where the text of its command stands again. -/
theorem ofLine_scanned_repeated :
    let slice : Line.Slice := ⟨['a', '&', ' ', ';'], ['b', ' ', 'a', ' '], ['&', 'a']⟩
    slice.Longest "a& ;b a &a".toList ∧ slice.Holds ⟨"b a", ["b", "a"], true⟩ ∧
      Command.ofLine "a& ;b a &a" =
        [⟨"a", ["a"], true⟩, ⟨"b a", ["b", "a"], true⟩, ⟨"a", ["a"], false⟩] := by
  intro slice
  have free : (slice.stretch.all fun char => !Line.isDelimiter char) = true := rfl
  have longest : slice.Longest "a& ;b a &a".toList := by
    constructor
    case whole => rfl
    case free => simpa [Line.Free] using free
    case opened => rintro char ⟨⟩; rfl
    case closed => rintro char ⟨⟩; rfl
  obtain ⟨_, holds, commands⟩ := ofLine_scanned.2.1 "a& ;b a &a" slice longest
  exact ⟨longest, holds _ (by decide), commands.trans (by decide)⟩

end Shell

end CommandShell
