import CommandShell.Proofs.Program.Unusable

/-!
The records of programs that raise a failure. A line of commands on the shell's own programs has one
for each command with a number that the clock refuses, in the order of the line, and no other.
-/

namespace CommandShell

/-- The record of a program that raised a failure. -/
def Event.isCrash : Event → Bool
  | .log _ (.programFailed _ _) => true
  | _ => false

namespace Program

/-- What is recorded of the end of the program that words name. -/
def crashRecords (words : List String) : List Event :=
  ((course? words).map fun course => course.ending.records (words.headD "")).getD []

theorem crashRecords_of_crashes {words : List String} {course : Course} {failure : Failure}
    (found : course? words = some course) (crashes : course.Crashes failure) :
    crashRecords words =
      [.log (.program (words.headD "")) (.programFailed (words.headD "") failure)] := by
  simp [crashRecords, found, crashes.ending, Ending.records, Failure.records, crashes.goesOn,
    crashes.answered]

/-- Nothing is recorded of a program that is not started, and of an orderly end. -/
theorem crashRecords_of_usable {words : List String} (usable : ¬ Unusable words) :
    crashRecords words = [] := by
  rcases found : course? words with _ | course
  · simp [crashRecords, found]
  · rcases (orderly_of_usable found usable).ending with ending | ⟨ending, _⟩
    · simp [crashRecords, found, ending, Ending.records]
    · simp [crashRecords, found, ending, Ending.records]

theorem crashRecords_ne_nil_iff {words : List String} : crashRecords words ≠ [] ↔ Unusable words := by
  constructor
  · intro recorded
    by_contra usable
    exact recorded (crashRecords_of_usable usable)
  · intro unusable
    obtain ⟨course, failure, found, crashes⟩ := unusable.exists_crash
    simp [crashRecords_of_crashes found crashes]

end Program

namespace Registry

section Records

variable {table later : TaskTable} {words : List String} {events : List Event}

theorem filter_isCrash_course (task : TaskId) (name : String) (course : Course) :
    (TaskTable.Job.course task (course.job name)).filter Event.isCrash =
      course.ending.records name := by
  have deeds : (course.deeds.map Event.deed).filter Event.isCrash = [] :=
    List.filter_eq_nil_iff.2 (by simp [Event.isCrash])
  have records : (course.ending.records name).filter Event.isCrash = course.ending.records name := by
    rw [List.filter_eq_self]
    intro event inside
    rcases ending : course.ending with status? | failure | _
    · simp [ending, Ending.records] at inside
    · rw [ending, Ending.records, Failure.mem_records_iff] at inside
      rw [inside.2]
      rfl
    · simp [ending, Ending.records] at inside
  have ended : (TaskTable.ended task (course.job name).join).filter Event.isCrash = [] := rfl
  have happens : (course.job name).events =
      course.deeds.map .deed ++ course.ending.records name := rfl
  rw [TaskTable.Job.course, happens, List.filter_append, List.filter_append, deeds, records, ended,
    List.nil_append, List.append_nil]

/-- A request has the records of the program that its words name. -/
theorem filter_isCrash_dispatch (words : List String) (table : TaskTable) :
    ((TaskTable.executor standard.launcher).dispatch words table).events.filter Event.isCrash =
      Program.crashRecords words := by
  rcases words with _ | ⟨name, arguments⟩
  · rfl
  · rcases found : Program.standard? name with _ | program
    · rw [dispatch_standard_none found]
      simp [Program.crashRecords, Program.course?, found, Event.isCrash]
    · have course := filter_isCrash_course table.nextTask name (program arguments)
      have started : [Event.log .main (.taskStarted table.nextTask (name :: arguments))].filter
          Event.isCrash = [] := rfl
      rw [dispatch_standard_some found]
      simp only [List.filter_append, course, started, List.append_nil]
      simp [Program.crashRecords, Program.course?, found]

theorem crashes_hidden :
    Sequencer.Hidden (TaskTable.executor standard.launcher) (fun _ => ()) Event.isCrash where
  state _ := rfl
  events := TaskTable.waitAny_emits fun _ _ => rfl
  matched _ := rfl
  discarded _ _ := rfl

/-- A run has the records of its commands, one command after the other. -/
theorem filter_isCrash_run {commands : List Command} {launches : List Launch}
    (ran : Sequencer.run (TaskTable.executor standard.launcher) commands table =
      ⟨.ok launches, later, events⟩) :
    events.filter Event.isCrash =
      commands.flatMap fun command => Program.crashRecords command.words := by
  induction commands generalizing table launches events with
  | nil =>
      obtain ⟨_, _, rfl⟩ := Sequencer.run_nil_eq_ok_iff.1 ran
      rfl
  | cons command rest ih =>
      obtain ⟨launch, ready, waited, others, started, awaited, others', starts, settles, runs, _,
        rfl⟩ := Sequencer.run_cons_eq_ok_iff.1 ran
      obtain ⟨asked, dispatched, _, rfl⟩ := Sequencer.start_eq_ok_iff.1 starts
      have records := filter_isCrash_dispatch command.words table
      rw [dispatched] at records
      have reported : launch.report.filter Event.isCrash = [] := by
        rcases launch with ⟨other, _ | task⟩
        · rfl
        · rfl
      have hidden := (crashes_hidden.settle_seen launch ready).2
      rw [settles] at hidden
      rw [List.filter_append, List.filter_append, List.filter_append, records, reported, hidden,
        ih runs, List.flatMap_cons, List.append_nil, List.append_nil]

end Records

/-- The programs that every shell has come to an orderly end exactly when they are not given a number
which the clock refuses. With such a number they crash, and `pingPong` writes its word once. In any
other case it is written five times or never. A line of commands runs to its end, and of its crashes
there are records, one for each command with such a number. -/
theorem orderly_unless_unusable (words : List String) (line : String) (table : TaskTable)
    (settled : table.Settled) :
    (∀ course, Program.course? words = some course →
      (course.Orderly ↔ ¬ Program.Unusable words)) ∧
    (Program.Unusable words →
      ∃ course failure, Program.course? words = some course ∧ course.Crashes failure) ∧
    (Program.echo words).Orderly ∧
    (∀ word, let course := Program.pingPong (word :: words)
      (course.Orderly →
        Program.wordsWritten word course = 5 ∨ Program.wordsWritten word course = 0) ∧
      (¬ course.Orderly → Program.wordsWritten word course = 1)) ∧
    ∃ launches later events,
      Sequencer.run (TaskTable.executor standard.launcher) (Command.ofLine line) table =
        ⟨.ok launches, later, events⟩ ∧ later.Settled ∧
      (events.filter Event.isCrash =
        (Command.ofLine line).flatMap fun command => Program.crashRecords command.words) ∧
      ((∃ thread name failure, .log thread (.programFailed name failure) ∈ events) ↔
        ∃ command ∈ Command.ofLine line, Program.Unusable command.words) := by
  refine ⟨fun _ found => Program.orderly_iff found, fun unusable => unusable.exists_crash,
    Program.orderly_echo words, fun word => Program.wordsWritten_pingPong word words, ?_⟩
  obtain ⟨launches, later, events, ran, settled'⟩ :=
    settled.exists_run standard_immediate (Command.ofLine line)
  have records := filter_isCrash_run ran
  refine ⟨launches, later, events, ran, settled', records, ?_⟩
  constructor
  · rintro ⟨thread, name, failure, inside⟩
    have kept : .log thread (.programFailed name failure) ∈ events.filter Event.isCrash :=
      List.mem_filter.2 ⟨inside, rfl⟩
    rw [records, List.mem_flatMap] at kept
    obtain ⟨command, listed, recorded⟩ := kept
    exact ⟨command, listed, Program.crashRecords_ne_nil_iff.1 (List.ne_nil_of_mem recorded)⟩
  · rintro ⟨command, listed, unusable⟩
    obtain ⟨course, failure, found, crashes⟩ := unusable.exists_crash
    have recorded := Program.crashRecords_of_crashes found crashes
    have inside : .log (.program (command.words.headD ""))
        (.programFailed (command.words.headD "") failure) ∈ events.filter Event.isCrash := by
      rw [records, List.mem_flatMap]
      exact ⟨command, listed, by rw [recorded]; exact List.mem_singleton_self _⟩
    exact ⟨_, _, _, (List.mem_filter.1 inside).1⟩

/-- Of three commands the first sleeps for no number and the second for too long. -/
theorem orderly_unless_endless :
    let line := "sleep nan; SLEEP 1e12; PingPong a 0"
    let endless : Binary64 := .finite false 8192000000000000 (-13)
    TaskTable.empty.Settled ∧
    (Program.sleep ["nan"]).Crashes .sleepNotNumber ∧
    ¬ Program.Unusable ["PingPong", "a", "0"] ∧
    ∃ launches later events,
      Sequencer.run (TaskTable.executor standard.launcher) (Command.ofLine line) .empty =
        ⟨.ok launches, later, events⟩ ∧
      events.filter Event.isCrash =
        [.log (.program "sleep") (.programFailed "sleep" .sleepNotNumber),
          .log (.program "SLEEP") (.programFailed "SLEEP" (.sleepTooLong endless))] := by
  intro line endless
  obtain ⟨orderly, _, _, _, launches, later, events, ran, _, records, _⟩ :=
    orderly_unless_unusable ["PingPong", "a", "0"] line .empty TaskTable.settled_empty
  have commands : Command.ofLine line = [⟨"sleep nan", ["sleep", "nan"], false⟩,
      ⟨"SLEEP 1e12", ["SLEEP", "1e12"], false⟩,
      ⟨"PingPong a 0", ["PingPong", "a", "0"], false⟩] := by
    decide
  have spelled : Program.Given 100 Literal.SpellsInteger 0 ["0"] :=
    .first [] (Literal.integer?_eq_some_iff.1 (by decide))
  refine ⟨TaskTable.settled_empty, ⟨by decide, rfl, rfl⟩, ?_, launches, later, events, ran,
    records.trans ?_⟩
  · rw [← orderly (Program.pingPong ["a", "0"]) rfl]
    exact (Program.pingPong_of_usable "a" spelled (by decide)).1
  · rw [commands]
    decide +kernel

/-- A duration that is no number is not answered by a complaint. -/
theorem orderly_not_always :
    ¬ ∀ words course, Program.course? words = some course → course.Orderly := by
  intro always
  have orderly := always ["sleep", "nan"] (Program.sleep ["nan"]) rfl
  have crashes : (Program.sleep ["nan"]).Crashes .sleepNotNumber := ⟨by decide, rfl, rfl⟩
  exact crashes.not_orderly orderly

end Registry

end CommandShell
