import CommandShell.Proofs.Sequencer.Waiting
import CommandShell.Proofs.TaskTable.Emission
import CommandShell.Proofs.TaskTable.Leftovers

/-!
The drain after a line. It asks whether tasks are outstanding and takes them from the queue of those
that ended. The two are linked by the history of the table, so a drain takes every outstanding task
once, in the order of their ends, and blocks only for a task that still runs.
-/

namespace CommandShell

namespace Timeline

/-- Tasks are outstanding. -/
def isBusy (line : Timeline) : Bool := line.table.isBusy

/-- Wait for tasks until none is outstanding, while tasks end. -/
def drain (moments : Nat → Moment) : Timeline → Outcome Timeline Unit :=
  (executor moments).drain isBusy

variable {line : Timeline}

theorem isBusy_eq_false_iff : line.isBusy = false ↔ line.table.outstanding = [] := by
  simp [isBusy, TaskTable.isBusy]

/-- A drain takes tasks until none is outstanding, or blocks on an empty queue. -/
theorem drain_during (moments : Nat → Moment) (line : Timeline) :
    ∃ during : Past,
      (drain moments line).state.past = line.past ++ during ∧ during.accepted = [] ∧
      (((drain moments line).answer = .ok () ∧
          (drain moments line).state.table.outstanding = [] ∧
          (drain moments line).events.count .wait = during.collected.length) ∨
        ((drain moments line).answer = .error .wouldBlock ∧
          (drain moments line).state.table.outstanding ≠ [] ∧
          (drain moments line).state.table.completed = [] ∧
          (drain moments line).events.count .wait = during.collected.length + 1)) := by
  unfold drain
  induction line using Executor.drain_induction (executor moments) isBusy with
  | done line idle =>
      rw [Executor.drain_done idle]
      exact ⟨[], by simp, rfl, .inl ⟨rfl, isBusy_eq_false_iff.1 idle, rfl⟩⟩
  | failed line failure later events left waited =>
      obtain ⟨rfl, empty, ⟨ended, past⟩, one⟩ := waitAny_error waited
      rw [Executor.drain_failed left waited]
      refine ⟨ended.map .ended, past, by simp, .inr ⟨rfl, ?_, empty, by simp [one]⟩⟩
      rw [outstanding_of_waitAny_error waited]
      exact fun none => absurd left (by simp [isBusy_eq_false_iff.2 none])
  | taken line task later events left waited ih =>
      obtain ⟨ended, past, _, _, one⟩ := waitAny_ok waited
      obtain ⟨more, laterPast, accepted, outcome⟩ := ih
      rw [Executor.drain_taken left waited]
      refine ⟨ended.map .ended ++ [.collected task] ++ more, ?_, by simp [accepted], ?_⟩
      · simp [Outcome.after, laterPast, past]
      · rcases outcome with ⟨answer, none, waits⟩ | ⟨answer, some, empty, waits⟩
        · refine .inl ⟨answer, none, ?_⟩
          simp [Outcome.after, List.count_append, one, waits, Nat.add_comm]
        · refine .inr ⟨answer, some, empty, ?_⟩
          simp [Outcome.after, List.count_append, one, waits]
          omega

/-- How a drain goes, with what happens during it. -/
structure Drained (line : Timeline) (during : Past) (outcome : Outcome Timeline Unit) : Prop where
  past : outcome.state.past = line.past ++ during
  accepted : during.accepted = []
  /-- Tasks are handed back in the order of their ends, those that waited in the queue first. -/
  order : line.table.completed ++ during.ended =
    during.collected ++ outcome.state.table.completed
  /-- No task is handed back twice, and only tasks that were outstanding are. -/
  once : during.collected.Nodup
  known : during.collected ⊆ line.table.outstanding.map (·.1)
  /-- A drain returns when every outstanding task has ended. -/
  returns : outcome.answer = .ok () ↔
    ∀ task ∈ line.table.outstanding.map (·.1), task ∈ outcome.state.past.ended
  /-- Then there was one wait for each of them, and nothing is left. -/
  done : outcome.answer = .ok () →
    outcome.events.count .wait = line.table.outstanding.length ∧
      during.collected.Perm (line.table.outstanding.map (·.1)) ∧
      outcome.state.table.outstanding = [] ∧ outcome.state.table.completed = []
  /-- Otherwise it blocks when every task that ended is handed back, and only running ones are left. -/
  blocked : outcome.answer ≠ .ok () →
    outcome.answer = .error .wouldBlock ∧
      outcome.events.count .wait = during.collected.length + 1 ∧
      outcome.state.table.completed = [] ∧
      outcome.state.table.outstanding.map (·.1) = outcome.state.table.running.map (·.1) ∧
      outcome.state.table.running ≠ []

theorem drain_reached (moments : Nat → Moment) (reached : TaskTable.Reached line.past line.table) :
    TaskTable.Reached (drain moments line).state.past (drain moments line).state.table :=
  Executor.drain_continues (Step.keeps_iff_continues.1 (waitAny_keeps moments)) line [] reached

/-- From every state that can be reached a drain goes in this way. -/
theorem exists_drained (moments : Nat → Moment)
    (reached : TaskTable.Reached line.past line.table) :
    ∃ during, Drained line during (drain moments line) := by
  obtain ⟨during, past, accepted, outcome⟩ := drain_during moments line
  have reached' := drain_reached moments reached
  generalize drain moments line = last at past outcome reached'
  have accounted := reached.accounted
  have accounted' := reached'.accounted
  obtain ⟨nodup, subset⟩ := Sequencer.collected_during reached reached' past accepted
  have remaining := Sequencer.outstanding_during reached reached' past accepted
  have queue := Sequencer.queue_during reached reached' past
  refine ⟨during, past, accepted, queue, nodup, subset, ?returns, ?done, ?blocked⟩
  case returns =>
    rcases outcome with ⟨answer, none, _⟩ | ⟨answer, left, empty, _⟩
    · rw [none, List.map_nil, eq_comm, List.filter_eq_nil_iff] at remaining
      refine ⟨fun _ task inside => accounted'.collected_subset ?_, fun _ => answer⟩
      have taken := remaining task inside
      rw [decide_eq_true_eq, not_not] at taken
      simp [past, taken]
    · refine ⟨fun other => absurd (answer.symm.trans other) (by simp), fun ended => ?_⟩
      -- A task that is left was outstanding before, and it runs.
      obtain ⟨entry, inside⟩ := List.exists_mem_of_ne_nil _ left
      have outstanding : entry.1 ∈ last.state.table.outstanding.map (·.1) :=
        List.mem_map_of_mem inside
      have before := (List.mem_filter.1 (remaining ▸ outstanding)).1
      rw [accounted'.outstanding_of_completed_eq_nil empty] at outstanding
      exact absurd (ended entry.1 before) (accounted'.mem_running_iff.1 outstanding).2
  case done =>
    intro answered
    rcases outcome with ⟨_, none, waits⟩ | ⟨answer, _⟩
    · rw [none, List.map_nil, eq_comm, List.filter_eq_nil_iff] at remaining
      have perm : during.collected.Perm (line.table.outstanding.map (·.1)) := by
        refine (List.perm_ext_iff_of_nodup nodup accounted.outstanding_nodup).2 fun task =>
          ⟨fun inside => subset inside, fun inside => ?_⟩
        simpa using remaining task inside
      exact ⟨by rw [waits, perm.length_eq, List.length_map], perm, none,
        accounted'.completed_of_outstanding_eq_nil none⟩
    · exact absurd (answer.symm.trans answered) (by simp)
  case blocked =>
    intro unanswered
    rcases outcome with ⟨answer, _⟩ | ⟨answer, left, empty, waits⟩
    · exact absurd answer unanswered
    · have running := accounted'.outstanding_of_completed_eq_nil empty
      refine ⟨answer, waits, empty, running, fun none => left ?_⟩
      rwa [none, List.map_nil, List.map_eq_nil_iff] at running

/-- No task ends any more. -/
def quiet (launcher : Launcher) (_clock : Nat) : Moment := ⟨[], launcher⟩

/-- A drain of a table is a drain while no task ends any more. -/
theorem drain_quiet (launcher : Launcher) (line : Timeline) :
    (drain (quiet launcher) line).seen (·.table) (· != .wait) = TaskTable.drain line.table := by
  have collected (table : TaskTable) : ∀ event ∈ (TaskTable.waitAny table).events, event ≠ .wait :=
    TaskTable.waitAny_emits (by simp) table
  have waits (line : Timeline) :
      ((executor (quiet launcher)).waitAny line).seen (·.table) (· != .wait) =
        ((TaskTable.executor launcher).waitAny line.table).seen id (· != .wait) := by
    simp [executor, waitAny, pass, quiet, endTasks, TaskTable.executor, Outcome.seen]
  have seen : (drain (quiet launcher) line).seen (·.table) (· != .wait) =
      (TaskTable.drain line.table).seen id (· != .wait) := by
    rw [TaskTable.drain_eq launcher]
    exact @Executor.drain_seen _ _ isBusy (executor (quiet launcher)) (TaskTable.executor launcher)
      (·.table) (· != .wait) TaskTable.isBusy (fun _ => rfl) waits line
  have all : (TaskTable.drain line.table).events.filter (· != .wait) =
      (TaskTable.drain line.table).events := by
    refine List.filter_eq_self.2 fun event inside => ?_
    simpa using TaskTable.drain_emits collected line.table event inside
  rw [seen, Outcome.seen, all]
  rfl

/-- Where no task runs, a line whose tasks end at once never blocks, and leaves the tasks that started
after its last wait, or after the queue from before if it did not wait. And from every state that can
be reached a drain waits once for each outstanding task, in the order of their ends, and returns with
nothing left when they all end; otherwise it blocks for one that still runs. The drain of a table is
one during which no task ends. -/
theorem leftovers_drained {past : Past} {table : TaskTable}
    (reached : TaskTable.Reached past table) :
    (table.running = [] → ∀ (launcher : Launcher) (commands : List Command),
      (∀ command ∈ commands, launcher.Ungated command.words) →
        TaskTable.Leaves launcher commands table) ∧
    (∀ (moments : Nat → Moment) (clock : Nat),
      ∃ during, Drained ⟨table, clock, past⟩ during (drain moments ⟨table, clock, past⟩)) ∧
    ∀ (launcher : Launcher) (clock : Nat),
      (drain (quiet launcher) ⟨table, clock, past⟩).seen (·.table) (· != .wait) =
        TaskTable.drain table := by
  refine ⟨fun idle launcher commands ungated => ?_, fun moments clock => ?_, fun launcher clock => ?_⟩
  · have rested : TaskTable.Rested table := ⟨⟨past, reached⟩, idle⟩
    exact rested.leaves ungated
  · exact @exists_drained ⟨table, clock, past⟩ moments reached
  · exact drain_quiet launcher ⟨table, clock, past⟩

/-- A task that overtook another one left it in the queue. A line that waits takes it out, and one
that does not wait adds to it. -/
theorem leftovers_drained_overtaking :
    let table : TaskTable := ⟨2, [(1, ["crash"])], [1], []⟩
    let beside : List Command := [⟨"crash", ["crash"], true⟩, ⟨"nope", ["nope"], false⟩]
    let waiting : List Command := beside ++
      [⟨"crash x", ["crash", "x"], false⟩, ⟨"crash y", ["crash", "y"], true⟩]
    let leaves (commands : List Command) : List TaskId :=
      (Sequencer.run (TaskTable.executor TaskTable.crashLauncher) commands table).state.completed
    let line : Timeline := ⟨table, 0, TaskTable.overtaking⟩
    TaskTable.Reached TaskTable.overtaking table ∧
      TaskTable.Leaves TaskTable.crashLauncher beside table ∧ leaves beside = [1, 3] ∧
      TaskTable.Leaves TaskTable.crashLauncher waiting table ∧ leaves waiting = [5] ∧
      (∃ during, Drained line during (drain (quiet TaskTable.crashLauncher) line)) ∧
      (TaskTable.drain table).state.outstanding = [] := by
  intro table beside waiting leaves line
  have ungated (words : List String) : TaskTable.crashLauncher.Ungated words := by
    intro job started
    rcases words with _ | ⟨program, arguments⟩
    · cases started
    · obtain ⟨_, _, _, other⟩ | ⟨other, known, same⟩ := Launcher.reply_cons_eq_ok_iff.1 started
      · cases other
      · cases same
        rw [TaskTable.crashLauncher] at known
        split at known
        · cases known
          rfl
        · cases known
  obtain ⟨left, drains, _⟩ := leftovers_drained TaskTable.overtaking_reached
  exact ⟨TaskTable.overtaking_reached, left rfl _ beside fun _ _ => ungated _, by decide +kernel,
    left rfl _ waiting fun _ _ => ungated _, by decide +kernel, drains _ 0, by decide +kernel⟩

end Timeline

end CommandShell
