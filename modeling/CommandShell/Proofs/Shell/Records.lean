import CommandShell.Proofs.Host.Starting
import CommandShell.Proofs.Records.Message
import CommandShell.Proofs.Session.Breakdown
import CommandShell.Proofs.Session.Requests
import CommandShell.Proofs.TaskTable.Timeline

/-!
The log of a shell. No request can forge a record: whatever lines and words are given to a shell, on
one of its own executors every record stays on one line of printable characters, and what it quotes
can be read back.
-/

namespace CommandShell

open Text (Printable printable_append printable_of_all lineBreaks)

/-- What was raised at the start of a process gives a printable reason. -/
def Host.Raised.Plain (raised : Raised) : Prop :=
  ∃ reason, raised.reason? = some reason ∧ Printable reason.toList

section Refusals

theorem printable_cannotStart (program : String) {reason : String}
    (printable : Printable reason.toList) :
    Printable ("cannot start " ++ quoted program ++ ": " ++ reason).toList := by
  simp only [String.toList_append, printable_append]
  exact ⟨⟨⟨printable_of_all (by decide), printable_quoted program⟩, printable_of_all (by decide)⟩,
    printable⟩

theorem Obstacle.printable_message (obstacle : Obstacle) : Printable obstacle.message.toList := by
  cases obstacle <;> exact printable_of_all (by decide +kernel)

theorem Launcher.Shipped.printable_message {launcher : Launcher}
    (shipped : launcher.Shipped Host.Raised.Plain) {program : String} {arguments : List String}
    {failure : Failure} (failed : launcher program arguments = .error failure) :
    Printable failure.message.toList := by
  cases shipped with
  | builtin registry =>
      rw [Registry.eq_unknownProgram_of_launcher failed]
      show Printable ("unknown program " ++ quoted program).toList
      simp only [String.toList_append, printable_append]
      exact ⟨printable_of_all (by decide), printable_quoted program⟩
  | host =>
      obtain ⟨obstacle, rfl⟩ := Host.exists_obstacle_of_launcher failed
      exact printable_cannotStart program obstacle.printable_message
  | process raises =>
      obtain ⟨raised, spawned, rfl⟩ := Host.failure_of_starter failed
      obtain ⟨reason, reasoned, printable⟩ := raises program arguments raised spawned
      rw [(Host.family_of_reason reasoned program).2]
      exact printable_cannotStart program printable

end Refusals

/-- A record shows printable characters only, none of which breaks its line, and what it quotes can
be read back. -/
structure Notice.Faithful (notice : Notice) : Prop where
  printable : Printable notice.message.toList
  oneLine : ∀ char ∈ notice.message.toList, char ∉ lineBreaks
  recalled : ∀ mention, notice.mention? = some mention → recalled notice.message = some mention

/-- If an event is a record, the record is faithful. -/
def Event.Faithful (event : Event) : Prop :=
  ∀ thread notice, event = .log thread notice → notice.Faithful

/-- An event that is no record. -/
def Event.Silent (event : Event) : Prop := ∀ thread notice, event ≠ .log thread notice

section Faithful

theorem Notice.faithful_of_printable {notice : Notice} (printable : Printable notice.message.toList) :
    notice.Faithful :=
  ⟨printable, printable.not_mem_lineBreaks, fun _ => recalled_message⟩

theorem Event.Silent.faithful {event : Event} (silent : event.Silent) : event.Faithful :=
  fun thread notice same => absurd same (silent thread notice)

theorem Event.faithful_log {notice : Notice} (thread : Thread)
    (plain : ∀ text ∈ notice.unquoted, Printable text.toList) :
    (Event.log thread notice).Faithful := by
  rintro _ _ ⟨⟩
  exact Notice.faithful_of_printable (Notice.printable_message plain)

/-- A record is faithful that quotes all it shows of others. -/
theorem Event.faithful_quoting {notice : Notice} (thread : Thread) (quotes : notice.unquoted = []) :
    (Event.log thread notice).Faithful := by
  refine Event.faithful_log thread fun text inside => ?_
  rw [quotes] at inside
  exact absurd inside List.not_mem_nil

theorem faithful_remarks : Sequencer.Remarks Event.Faithful := by
  constructor
  case report =>
    intro launch event inside
    rcases launch with ⟨command, _ | task⟩
    · obtain rfl | rfl := List.mem_pair.1 inside
      · exact Event.faithful_quoting .main rfl
      · exact Event.Silent.faithful (by simp [Event.Silent])
    · obtain rfl | rfl := List.mem_pair.1 inside
      · exact Event.faithful_quoting .main rfl
      · exact Event.Silent.faithful (by simp [Event.Silent])
  case matched => exact fun _ => Event.faithful_quoting .main rfl
  case discarded => exact fun _ _ => Event.faithful_quoting .main rfl

theorem faithful_farewell (line? : Option String) :
    ∀ event ∈ Session.farewell line?, event.Faithful := by
  intro event inside
  obtain rfl | rfl := List.mem_pair.1 inside
  · exact Event.faithful_quoting .main rfl
  · exact Event.Silent.faithful (by simp [Event.Silent])

theorem TaskTable.faithful_ended {task : TaskId} {join : Except Failure (Option Int)} {event : Event}
    (inside : event ∈ TaskTable.ended task join) : event.Faithful := by
  rcases TaskTable.mem_ended inside with ⟨_, rfl⟩ | ⟨_, rfl⟩
  · exact Event.faithful_quoting _ rfl
  · exact Event.faithful_quoting _ rfl

end Faithful

namespace Launcher.Shipped

variable {launcher : Launcher}

/-- The record of a refusal is faithful. -/
theorem faithful_refused (shipped : launcher.Shipped Host.Raised.Plain) {words : List String}
    {notice : Notice} (refused : launcher.reply words = .ok (.refused notice)) :
    (Event.log .main notice).Faithful := by
  cases words with
  | nil =>
      cases refused
      exact Event.faithful_quoting .main rfl
  | cons program arguments =>
      obtain ⟨failure, failed, _, ⟨⟩⟩ | ⟨job, _, ⟨⟩⟩ := reply_cons_eq_ok_iff.1 refused
      refine Event.faithful_log .main fun text inside => ?_
      rw [List.mem_singleton.1 inside]
      exact shipped.printable_message failed

/-- What a job does of itself is faithful. -/
theorem faithful_event (shipped : launcher.Shipped Host.Raised.Plain) {program : String}
    {arguments : List String} {job : Job} (launched : launcher program arguments = .ok job)
    {event : Event} (inside : event ∈ job.events) : event.Faithful := by
  cases shipped with
  | builtin registry =>
      obtain ⟨deed, rfl⟩ | ⟨failure, rfl⟩ := registry.event_of_launcher launched inside
      · exact Event.Silent.faithful (by simp [Event.Silent])
      · exact Event.faithful_quoting _ rfl
  | host =>
      obtain ⟨text, rfl⟩ := Host.processes.written launched inside
      exact Event.Silent.faithful (by simp [Event.Silent])
  | process raises =>
      obtain ⟨text, rfl⟩ := Host.event_of_starter launched inside
      exact Event.Silent.faithful (by simp [Event.Silent])

theorem faithful_course (shipped : launcher.Shipped Host.Raised.Plain) {words : List String}
    {job : Job} (started : launcher.reply words = .ok (.started job)) (task : TaskId) :
    ∀ event ∈ TaskTable.Job.course task job, event.Faithful := by
  intro event inside
  obtain ⟨program, arguments, rfl⟩ :=
    List.exists_cons_of_ne_nil (Launcher.ne_nil_of_started started)
  obtain ⟨failure, _, _, ⟨⟩⟩ | ⟨_, launched, ⟨⟩⟩ := reply_cons_eq_ok_iff.1 started
  rcases List.mem_append.1 inside with during | last
  · exact shipped.faithful_event launched during
  · exact TaskTable.faithful_ended last

/-- All that is said while requests are met is faithful. -/
theorem speaks {Lines : Type} {source : LineSource Lines}
    (shipped : launcher.Shipped Host.Raised.Plain)
    (silent : ∀ prompt, (source.read prompt).Emits Event.Silent) :
    Request.Speaks source launcher Event.Faithful where
  reads prompt state event inside := (silent prompt state event inside).faithful
  opens := Event.faithful_quoting .main rfl
  closes := faithful_farewell
  remarks := faithful_remarks
  refused _ _ := shipped.faithful_refused
  started _ _ := Event.faithful_quoting .main rfl
  course _ _ := shipped.faithful_course
  collected _ _ := Event.faithful_quoting .main rfl

end Launcher.Shipped

section Timelines

variable {moments : Nat → Moment}

theorem Timeline.faithful_passing : (Timeline.passing moments).Emits Event.Faithful := by
  refine Step.emits_iff_continues.2 (Timeline.passing_continues (fun _ _ _ => id) ?_)
  intro line told task job _ before event inside
  rcases List.mem_append.1 inside with earlier | now
  · exact before event earlier
  · exact TaskTable.faithful_ended now

theorem Timeline.faithful_waitAny : ((Timeline.executor moments).waitAny).Emits Event.Faithful := by
  intro line event inside
  rcases List.mem_append.1 inside with before | after
  · rcases List.mem_cons.1 before with rfl | passing
    · exact Event.Silent.faithful (by simp [Event.Silent])
    · exact Timeline.faithful_passing line event passing
  · exact TaskTable.waitAny_emits (fun _ _ => Event.faithful_quoting .main rfl) _ event after

theorem Timeline.faithful_dispatch
    (shipped : ∀ clock, (moments clock).launcher.Shipped Host.Raised.Plain) (words : List String) :
    ((Timeline.executor moments).dispatch words).Emits Event.Faithful := by
  intro line event inside
  rcases List.mem_append.1 inside with before | after
  · rcases List.mem_cons.1 before with rfl | passing
    · exact Event.Silent.faithful (by simp [Event.Silent])
    · exact Timeline.faithful_passing line event passing
  · rcases reply : (moments line.clock).launcher.reply words with failure | notice | job
    · simp [TaskTable.enroll, TaskTable.respond, reply] at after
    · obtain rfl : event = .log .main notice := by
        simpa [TaskTable.enroll, TaskTable.respond, reply] using after
      exact (shipped line.clock).faithful_refused reply
    · obtain rfl : event =
          .log .main (.taskStarted (line.pass moments).1.table.nextTask words) := by
        simpa [TaskTable.enroll, TaskTable.respond, reply] using after
      exact Event.faithful_quoting .main rfl

/-- A session is faithful whose tasks end at any time. -/
theorem Timeline.faithful_session {Lines : Type} {source : LineSource Lines}
    (silent : ∀ prompt, (source.read prompt).Emits Event.Silent)
    (shipped : ∀ clock, (moments clock).launcher.Shipped Host.Raised.Plain) :
    (Session.run source (Timeline.executor moments)).Emits Event.Faithful := by
  have runs (commands : List Command) :
      (Sequencer.run (Timeline.executor moments) commands).Emits Event.Faithful :=
    Sequencer.run_emits faithful_remarks
      (fun command _ => Timeline.faithful_dispatch shipped command.words) Timeline.faithful_waitAny
  intro session event inside
  rcases List.mem_cons.1 inside with rfl | inside
  · exact Event.faithful_quoting .main rfl
  · exact Session.loop_emits (fun prompt state event read => (silent prompt state event read).faithful)
      (fun line => Session.runLine_emits (runs _)) faithful_farewell session event inside

end Timelines

/-- No request forges a record. On the executors that come with the shell, whatever lines are run and
whatever words are dispatched, every record is one line of printable characters from which what it
quotes is read back, also where tasks end at any time. So records that quote different texts or
different words have different messages. -/
theorem faithful_of_requests {Lines : Type} {source : LineSource Lines} {launcher : Launcher}
    {moments : Nat → Moment} (silent : ∀ prompt, (source.read prompt).Emits Event.Silent)
    (shipped : launcher.Shipped Host.Raised.Plain)
    (always : ∀ clock, (moments clock).launcher.Shipped Host.Raised.Plain) :
    (∀ counter lines requests,
      ∀ event ∈ (Request.performAll source launcher requests ⟨counter, lines, .empty⟩).events,
        event.Faithful) ∧
      (Session.run source (Timeline.executor moments)).Emits Event.Faithful ∧
      (∀ words, ((Timeline.executor moments).dispatch words).Emits Event.Faithful) ∧
      (Timeline.executor moments).waitAny.Emits Event.Faithful ∧
      ∀ (first second : Notice) (mention mention' : Mention), first.mention? = some mention →
        second.mention? = some mention' → mention ≠ mention' → first.message ≠ second.message := by
  refine ⟨fun counter lines requests => ?_, Timeline.faithful_session silent always,
    Timeline.faithful_dispatch always, Timeline.faithful_waitAny, ?_⟩
  · exact Request.performAll_emits (shipped.speaks silent) counter lines requests
  · intro first second mention mention' one two different same
    have read := Notice.recalled_message one
    rw [same, Notice.recalled_message two] at read
    exact different (Option.some.inj read).symm

/-- A host that takes no program without arguments. -/
def reluctantSpawn (_name : String) : List String → Except Host.Raised Host.Child
  | [] => .error (.value "embedded null byte")
  | [_] => .error (.system (some "Permission denied") "")
  | _ => .ok ⟨none, ["\n"], .ok none⟩

theorem plain_reluctantSpawn (name : String) (arguments : List String) (raised : Host.Raised)
    (spawned : reluctantSpawn name arguments = .error raised) : raised.Plain := by
  unfold reluctantSpawn at spawned
  split at spawned
  · cases spawned
    exact ⟨_, rfl, printable_of_all (by decide +kernel)⟩
  · cases spawned
    exact ⟨_, rfl, printable_of_all (by decide +kernel)⟩
  · cases spawned

/-- Words with line feeds, marks, brackets and codes leave records of one line each. -/
theorem faithful_reluctant :
    let requests : List Request :=
      [.line "x\x00 & y'\x1b \\ ", .dispatch ["(\n", "\"", "'"], .dispatch [], .wait]
    let outcome := Request.performAll LineScript.source (Host.starter reluctantSpawn) requests
      ⟨1, ⟨[]⟩, .empty⟩
    (outcome.events.filterMap fun event => match event with
      | .log _ notice => some notice.message
      | _ => none) =
        ["executor.dispatch.failed program='x\\x00' error=cannot start 'x\\x00': embedded null byte",
          "sequencer.dispatch.failed command='x\\x00'",
          "executor.dispatch.failed program=\"y'\\x1b\" error=cannot start \"y'\\x1b\": " ++
            "Permission denied",
          "sequencer.dispatch.failed command=\"y'\\x1b \\\\\"",
          "executor.exit task_id=1 status=None",
          "executor.dispatch task_id=1 argv=('(\\n', '\"', \"'\")",
          "executor.dispatch.rejected reason=empty-argv",
          "executor.completed task_id=1 program='(\\n'"] ∧
      ∀ event ∈ outcome.events, event.Faithful := by
  intro requests outcome
  have silent (prompt : String) : (LineScript.source.read prompt).Emits Event.Silent := by
    intro script event inside
    rw [LineScript.read_events, List.mem_singleton] at inside
    simp [inside, Event.Silent]
  let moments (_clock : Nat) : Moment := ⟨[], Registry.standard.launcher⟩
  have always (clock : Nat) : (moments clock).launcher.Shipped Host.Raised.Plain :=
    .builtin Registry.standard
  have faithful := (faithful_of_requests silent (.process plain_reluctantSpawn) always).1
  exact ⟨by decide +kernel, faithful 1 ⟨[]⟩ requests⟩

end CommandShell
