import CommandShell.Proofs.TaskTable.History
import CommandShell.Proofs.TaskTable.Settled

/-!
What a line leaves on a table on which no task runs, when every task that it starts ends at once. The
tasks of concurrent commands stay in the queue until a command is waited for, which takes them all.
-/

namespace CommandShell

/-- The next command waits for this one. -/
def Launch.holdsUp (launch : Launch) : Bool := launch.task?.isSome && !launch.command.concurrent

/-- The queue of ended tasks after a command: it is taken as a whole when the next command waits, and
otherwise a task that started joins it. -/
def Launch.leaves (queue : List TaskId) (launch : Launch) : List TaskId :=
  if launch.holdsUp then [] else queue ++ launch.task?.toList

/-- Commands that nothing waits for add their tasks to the queue. -/
theorem Launch.foldl_leaves {launches : List Launch}
    (overtaken : ∀ launch ∈ launches, launch.holdsUp = false) (queue : List TaskId) :
    launches.foldl Launch.leaves queue = queue ++ launches.filterMap (·.task?) := by
  induction launches generalizing queue with
  | nil => simp
  | cons launch rest ih =>
      have first := overtaken launch List.mem_cons_self
      have others := ih fun other inside => overtaken other (List.mem_cons_of_mem _ inside)
      rw [List.foldl_cons, others, Launch.leaves, first]
      rcases started : launch.task? with _ | task <;> simp [started]

namespace TaskTable

/-- A table that can be reached and on which no task runs. -/
structure Rested (table : TaskTable) : Prop where
  reached : ∃ past, Reached past table
  idle : table.running = []

variable {launcher : Launcher} {table ready later : TaskTable} {words : List String}
  {events : List Event}

namespace Rested

theorem completed_nodup (rested : Rested table) : table.completed.Nodup := by
  obtain ⟨past, reached⟩ := rested.reached
  have once := reached.accounted.once
  rw [reached.accounted.queued] at once
  exact once.of_append_right

/-- Outstanding are the tasks in the queue. -/
theorem outstanding_perm (rested : Rested table) :
    (table.outstanding.map (·.1)).Perm table.completed := by
  obtain ⟨past, reached⟩ := rested.reached
  refine (List.perm_ext_iff_of_nodup reached.accounted.outstanding_nodup
    rested.completed_nodup).2 fun task => ?_
  simp [reached.accounted.mem_outstanding_tasks_iff, rested.idle]

/-- Every outstanding task is in the queue. -/
theorem settled (rested : Rested table) : Settled table := by
  intro entry inside
  exact rested.outstanding_perm.subset (List.mem_map_of_mem inside)

theorem waitAny : TaskTable.waitAny.Keeps Rested := by
  rintro table ⟨⟨past, reached⟩, idle⟩
  rcases waited : TaskTable.waitAny table with ⟨failure | task, later, events⟩
  · obtain ⟨_, _, rfl, _⟩ := waitAny_eq_error_iff.1 waited
    exact ⟨⟨past, reached⟩, idle⟩
  · obtain ⟨_, _, rfl, _⟩ := waitAny_eq_ok_iff.1 waited
    exact ⟨⟨_, reached.move (.collected waited)⟩, idle⟩

/-- The task of a request ends at once, at the end of the queue. -/
theorem dispatch {task? : Option TaskId} (rested : Rested table)
    (ungated : launcher.Ungated words)
    (dispatched : TaskTable.dispatch launcher words table = ⟨.ok task?, ready, events⟩) :
    Rested ready ∧ ready.completed = table.completed ++ task?.toList := by
  obtain ⟨past, reached⟩ := rested.reached
  obtain ⟨more, reached'⟩ := reached.dispatch launcher words
  rw [dispatched] at reached'
  rcases dispatch_of_ungated ungated dispatched with ⟨rfl, rfl⟩ | ⟨job, rfl, rfl⟩
  · exact ⟨rested, by simp⟩
  · refine ⟨⟨⟨_, reached'⟩, ?_⟩, rfl⟩
    simp [accept, finish, rested.idle]

end Rested

/-- A wait for the last task of the queue takes the whole queue. -/
theorem exists_waitFor_last {pending : TaskId} {others : List TaskId}
    (queue : table.completed = others ++ [pending]) (new : pending ∉ others) :
    ∃ later events,
      Sequencer.waitFor (executor launcher) pending table = ⟨.ok (), later, events⟩ ∧
        later.completed = [] := by
  induction others generalizing table with
  | nil =>
      have waited : (executor launcher).waitAny table = ⟨.ok pending, _, _⟩ :=
        waitAny_eq_ok_iff.2 ⟨[], queue, rfl, rfl⟩
      exact ⟨_, _, Sequencer.waitFor_matched waited, rfl⟩
  | cons first rest ih =>
      have waited : (executor launcher).waitAny table = ⟨.ok first, _, _⟩ :=
        waitAny_eq_ok_iff.2 ⟨rest ++ [pending], queue, rfl, rfl⟩
      rw [List.mem_cons, not_or] at new
      obtain ⟨different, new⟩ := new
      obtain ⟨later, events, goes, empty⟩ := @ih { table with
        completed := rest ++ [pending]
        outstanding := table.outstanding.filter (·.1 ≠ first) } rfl new
      rw [Sequencer.waitFor_discarded (Ne.symm different) waited, goes]
      exact ⟨later, _, rfl, empty⟩

/-- A command comes to its end, and the table rests again. -/
theorem Rested.exists_settle {launch : Launch} (rested : Rested table)
    (ungated : launcher.Ungated words)
    (dispatched : TaskTable.dispatch launcher words table = ⟨.ok launch.task?, ready, events⟩) :
    ∃ waited awaited,
      Sequencer.settle (executor launcher) launch ready = ⟨.ok (), waited, awaited⟩ ∧
        Rested waited ∧ waited.completed = launch.leaves table.completed := by
  obtain ⟨rested', queue⟩ := rested.dispatch ungated dispatched
  have waits : (executor launcher).waitAny.Keeps Rested := Rested.waitAny
  have kept := Sequencer.settle_keeps waits launch ready rested'
  rcases launch with ⟨command, _ | task⟩
  · refine ⟨ready, [], rfl, rested', ?_⟩
    simpa [Launch.leaves, Launch.holdsUp] using queue
  · by_cases beside : command.concurrent
    · refine ⟨ready, [], ?_, rested', ?_⟩
      · simp [Sequencer.settle, beside]
      · simpa [Launch.leaves, Launch.holdsUp, beside] using queue
    · have nodup := rested'.completed_nodup
      simp only [Option.toList_some] at queue
      rw [queue, List.nodup_append] at nodup
      have new : task ∉ table.completed := fun inside => nodup.2.2 task inside task (by simp) rfl
      obtain ⟨waited, awaited, goes, empty⟩ := @exists_waitFor_last launcher ready task _ queue new
      have settles : Sequencer.settle (executor launcher) ⟨command, some task⟩ ready =
          ⟨.ok (), waited, awaited⟩ := by
        simpa [Sequencer.settle, beside] using goes
      rw [settles] at kept
      refine ⟨waited, awaited, settles, kept, ?_⟩
      simp [Launch.leaves, Launch.holdsUp, beside, empty]

section Run

variable {commands : List Command}

/-- A line leaves in the queue what its commands leave there one after the other. -/
theorem Rested.completed_of_run {launches : List Launch} (rested : Rested table)
    (ungated : ∀ command ∈ commands, launcher.Ungated command.words)
    (ran : Sequencer.run (executor launcher) commands table = ⟨.ok launches, later, events⟩) :
    Rested later ∧ later.completed = launches.foldl Launch.leaves table.completed := by
  induction commands generalizing table launches events with
  | nil =>
      obtain ⟨rfl, rfl, _⟩ := Sequencer.run_nil_eq_ok_iff.1 ran
      exact ⟨rested, rfl⟩
  | cons command rest ih =>
      obtain ⟨launch, ready, waited, others, _, _, _, starts, settles, runs, rfl, _⟩ :=
        Sequencer.run_cons_eq_ok_iff.1 ran
      obtain ⟨asked, dispatched, _, _⟩ := Sequencer.start_eq_ok_iff.1 starts
      obtain ⟨waited', _, settles', rested', left⟩ :=
        rested.exists_settle (ungated command List.mem_cons_self) dispatched
      obtain ⟨_, rfl, _⟩ := Outcome.mk.inj (settles.symm.trans settles')
      obtain ⟨rested'', queue⟩ := ih rested'
        (fun other inside => ungated other (List.mem_cons_of_mem _ inside)) runs
      exact ⟨rested'', by rw [queue, left, List.foldl_cons]⟩

/-- What a line leaves on a table, whether it is run to its end or not. -/
structure Leaves (launcher : Launcher) (commands : List Command) (table : TaskTable) : Prop where
  /-- No wait blocks: a line fails only where the launcher itself does, after the commands before. -/
  fails : ∀ failure later events,
    Sequencer.run (executor launcher) commands table = ⟨.error failure, later, events⟩ →
      ∃ before command after launches fore, commands = before ++ command :: after ∧
        Sequencer.run (executor launcher) before table = ⟨.ok launches, later, fore⟩ ∧
        launcher.reply command.words = .error failure
  /-- There is one launch for each command. -/
  each : ∀ launches later events,
    Sequencer.run (executor launcher) commands table = ⟨.ok launches, later, events⟩ →
      launches.map (·.command) = commands
  started : ∀ launches later events,
    Sequencer.run (executor launcher) commands table = ⟨.ok launches, later, events⟩ →
      ∀ launch ∈ launches, launch.task?.isSome = true ↔
        ∃ job, launcher.reply launch.command.words = .ok (.started job)
  outstanding : ∀ launches later events,
    Sequencer.run (executor launcher) commands table = ⟨.ok launches, later, events⟩ →
      (later.outstanding.map (·.1)).Perm later.completed
  /-- The queue from before the line stays when the line waits for none of its commands. -/
  overtaken : ∀ launches later events,
    Sequencer.run (executor launcher) commands table = ⟨.ok launches, later, events⟩ →
      (∀ launch ∈ launches, launch.holdsUp = false) →
        later.completed = table.completed ++ launches.filterMap (·.task?)
  /-- Otherwise the tasks stay that started after the last command that was waited for. -/
  heldUp : ∀ launches later events,
    Sequencer.run (executor launcher) commands table = ⟨.ok launches, later, events⟩ →
      ∀ before last after, launches = before ++ last :: after → last.holdsUp = true →
        (∀ launch ∈ after, launch.holdsUp = false) →
          later.completed = after.filterMap (·.task?)

theorem Rested.leaves (rested : Rested table)
    (ungated : ∀ command ∈ commands, ∀ job,
      launcher.reply command.words = .ok (.started job) → job.gate? = none) :
    Leaves launcher commands table := by
  constructor
  case fails =>
    intro failure later events failed
    obtain ⟨before, command, after, launches, middle, fore, asked, split, ran, refused, _⟩ :=
      (rested.settled.unblocked ungated).exists_of_error failed
    obtain ⟨reply, rfl⟩ := reply_of_dispatch_error refused
    exact ⟨before, command, after, launches, fore, split, ran, reply⟩
  case each =>
    intro launches later events ran
    exact Sequencer.run_commands ran
  case started =>
    intro launches later events ran launch inside
    obtain ⟨before, ready, asked, dispatched⟩ := Sequencer.exists_dispatch_of_mem ran inside
    exact isSome_of_dispatch dispatched
  case outstanding =>
    intro launches later events ran
    exact (rested.completed_of_run ungated ran).1.outstanding_perm
  case overtaken =>
    intro launches later events ran none
    rw [(rested.completed_of_run ungated ran).2, Launch.foldl_leaves none]
  case heldUp =>
    intro launches later events ran before last after split held none
    rw [(rested.completed_of_run ungated ran).2, split, List.foldl_append, List.foldl_cons,
      Launch.foldl_leaves none, Launch.leaves, held]
    rfl

end Run

end TaskTable

end CommandShell
