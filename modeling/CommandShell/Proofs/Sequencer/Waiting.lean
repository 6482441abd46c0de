import CommandShell.Proofs.TaskTable.Timeline

/-!
Waits of the sequencer on a table whose tasks end at any time. A wait takes the completions queued
before its task and then its task, it leaves all later ones alone, and it blocks only while its task
runs.
-/

namespace CommandShell.Sequencer

open Timeline (executor)

variable {moments : Nat → Moment}

/-- A wait takes completions until its task comes back, or blocks on an empty queue without having
seen its task. -/
theorem waitFor_during (moments : Nat → Moment) (pending : TaskId) (line : Timeline) :
    ∃ during : Past,
      (waitFor (executor moments) pending line).state.past = line.past ++ during ∧
      during.accepted = [] ∧
      (((waitFor (executor moments) pending line).answer = .ok () ∧
          ∃ others, pending ∉ others ∧ during.collected = others ++ [pending] ∧
            (waitFor (executor moments) pending line).events.count .wait = others.length + 1) ∨
        ((waitFor (executor moments) pending line).answer = .error .wouldBlock ∧
          pending ∉ during.collected ∧
          (waitFor (executor moments) pending line).state.table.completed = [] ∧
          (waitFor (executor moments) pending line).events.count .wait =
            during.collected.length + 1)) := by
  induction bound : (executor moments).pending line using Nat.strongRecOn generalizing line with
  | ind count ih =>
      rcases waited : (executor moments).waitAny line with ⟨failure | task, later, events⟩
      · obtain ⟨rfl, empty, ⟨ended, past⟩, one⟩ := Timeline.waitAny_error waited
        rw [waitFor_error waited]
        exact ⟨ended.map .ended, past, by simp, .inr ⟨rfl, by simp, empty, by simp [one]⟩⟩
      · obtain ⟨ended, past, _, _, one⟩ := Timeline.waitAny_ok waited
        by_cases same : task = pending
        · subst same
          rw [waitFor_matched waited]
          refine ⟨_, past, by simp, .inl ⟨rfl, [], by simp, by simp, ?_⟩⟩
          simp [List.count_append, one]
        · obtain ⟨more, laterPast, accepted, outcome⟩ :=
            ih _ (bound ▸ (executor moments).pending_lt waited) later rfl
          rw [waitFor_discarded same waited]
          refine ⟨ended.map .ended ++ [.collected task] ++ more, ?_, by simp [accepted], ?_⟩
          · simp [Outcome.after, laterPast, past]
          · rcases outcome with ⟨answer, others, absent, collected, waits⟩ |
              ⟨answer, absent, empty, waits⟩
            · refine .inl ⟨answer, task :: others, ?_, ?_, ?_⟩
              · simp [absent, Ne.symm same]
              · simp [collected]
              · simp [Outcome.after, List.count_append, one, waits, Nat.add_comm]
            · refine .inr ⟨answer, ?_, empty, ?_⟩
              · simp [absent, Ne.symm same]
              · simp [Outcome.after, List.count_append, one, waits, Nat.add_comm]

/-- How a wait for a task goes that begins at `ready`, with what happens during the wait. -/
structure Awaited (pending : TaskId) (ready : Timeline) (during : Past)
    (outcome : Outcome Timeline Unit) : Prop where
  past : outcome.state.past = ready.past ++ during
  /-- No wait handed the task back before. -/
  fresh : pending ∉ ready.past.collected
  outstanding : pending ∈ ready.table.outstanding.map (·.1)
  /-- A wait that ends takes what was queued before its task, in order, and then its task. -/
  matched : outcome.answer = .ok () →
    ∃ others, pending ∉ others ∧ during.collected = others ++ [pending] ∧
      ready.table.completed ++ during.ended =
        others ++ pending :: outcome.state.table.completed
  /-- What was queued after the task stays queued and outstanding. -/
  kept : ∀ task ∈ outcome.state.table.completed,
    task ∈ outcome.state.table.outstanding.map (·.1)
  calls : outcome.events.count .wait ≤ ready.table.outstanding.length
  /-- The wait ends when the task has ended. -/
  ends : outcome.answer = .ok () ↔ pending ∈ outcome.state.past.ended
  blocked : outcome.answer ≠ .ok () →
    outcome.answer = .error .wouldBlock ∧ outcome.state.table.completed = [] ∧
      pending ∈ outcome.state.table.running.map (·.1)

/-- A task that was just started is new. -/
theorem fresh_of_dispatch {words : List String} {task : TaskId} {line ready : Timeline}
    {events : List Event} (reached : TaskTable.Reached line.past line.table)
    (h : (executor moments).dispatch words line = ⟨.ok (some task), ready, events⟩) :
    TaskTable.Reached ready.past ready.table ∧ task ∈ ready.past.tasks ∧
      task ∉ ready.past.collected := by
  have next := Timeline.dispatch_keeps moments words line reached
  rw [h] at next
  obtain ⟨ended, past⟩ := Timeline.dispatch_past h
  rw [Timeline.requested] at past
  refine ⟨next, by simp [past], ?_⟩
  have new : task ∉ line.past.tasks := by
    have nodup := next.accounted.tasks_nodup
    simp only [past, Past.tasks_append, Past.tasks_map_ended, List.nil_append] at nodup
    exact fun inside => (List.nodup_append.1 nodup).2.2 task inside task (by simp) rfl
  intro collected
  have old : task ∈ line.past.collected := by simpa [past] using collected
  exact new (reached.accounted.known (reached.accounted.collected_subset old))

section During

variable {line later : Timeline} {during : Past}

/-- The tasks collected after a table was reached, when none is accepted any more, are different
ones of its outstanding tasks. -/
theorem collected_during (reached : TaskTable.Reached line.past line.table)
    (reached' : TaskTable.Reached later.past later.table)
    (past : later.past = line.past ++ during) (accepted : during.accepted = []) :
    during.collected.Nodup ∧ during.collected ⊆ line.table.outstanding.map (·.1) := by
  have once := reached'.accounted.once
  rw [reached'.accounted.queued, past, Past.collected_append, List.append_assoc] at once
  obtain ⟨_, rest, apart⟩ := List.nodup_append.1 once
  refine ⟨(List.nodup_append.1 rest).1, fun task inside => ?_⟩
  have known : task ∈ later.past.tasks :=
    reached'.accounted.known (reached'.accounted.collected_subset (by simp [past, inside]))
  have old : task ∈ line.past.tasks := by simpa [past, Past.tasks, accepted] using known
  rw [reached.accounted.outstanding_tasks, List.mem_filter]
  exact ⟨old, by simpa using fun before => apart task before task (by simp [inside]) rfl⟩

/-- What is handed back is no longer outstanding, and nothing else changes that. -/
theorem outstanding_during (reached : TaskTable.Reached line.past line.table)
    (reached' : TaskTable.Reached later.past later.table)
    (past : later.past = line.past ++ during) (accepted : during.accepted = []) :
    later.table.outstanding.map (·.1) =
      (line.table.outstanding.map (·.1)).filter (· ∉ during.collected) := by
  have tasks : later.past.tasks = line.past.tasks := by simp [past, Past.tasks, accepted]
  rw [reached.accounted.outstanding_tasks, reached'.accounted.outstanding_tasks, tasks,
    List.filter_filter]
  refine List.filter_congr fun task _ => ?_
  simp [past, and_comm]

/-- The queue is handed back from its head while it grows at its end. -/
theorem queue_during (reached : TaskTable.Reached line.past line.table)
    (reached' : TaskTable.Reached later.past later.table)
    (past : later.past = line.past ++ during) :
    line.table.completed ++ during.ended = during.collected ++ later.table.completed := by
  have order := reached'.accounted.queued
  rw [past, Past.ended_append, reached.accounted.queued, Past.collected_append,
    List.append_assoc, List.append_assoc] at order
  exact List.append_cancel_left order

end During

/-- A wait for an accepted task that was never collected. -/
theorem waitFor_awaited {pending : TaskId} {ready : Timeline}
    (reached : TaskTable.Reached ready.past ready.table) (known : pending ∈ ready.past.tasks)
    (fresh : pending ∉ ready.past.collected) :
    ∃ during, Awaited pending ready during (waitFor (executor moments) pending ready) := by
  obtain ⟨during, past, accepted, outcome⟩ := waitFor_during moments pending ready
  have reached' := waitFor_keeps (Timeline.waitAny_keeps moments) pending reached
  generalize waitFor (executor moments) pending ready = last at past outcome reached'
  have accounted' := reached'.accounted
  have outstanding : pending ∈ ready.table.outstanding.map (·.1) := by
    rw [reached.accounted.outstanding_tasks, List.mem_filter]
    exact ⟨known, by simpa using fresh⟩
  have kept : ∀ task ∈ last.state.table.completed,
      task ∈ last.state.table.outstanding.map (·.1) := fun task inside =>
    accounted'.mem_outstanding_tasks_iff.2 (.inr inside)
  obtain ⟨nodup, subset⟩ := collected_during reached reached' past accepted
  have queue := queue_during reached reached' past
  rcases outcome with ⟨answer, others, absent, collected, waits⟩ | ⟨answer, absent, empty, waits⟩
  · have ended : pending ∈ last.state.past.ended :=
      accounted'.collected_subset (by simp [past, collected])
    refine ⟨during, past, fresh, outstanding, ?matched, kept, ?calls, ?ends, ?blocked⟩
    case matched => exact fun _ => ⟨others, absent, collected, by simpa [collected] using queue⟩
    case calls =>
      have bound := (List.subperm_of_subset nodup subset).length_le
      simpa [waits, collected] using bound
    case ends => simp [answer, ended]
    case blocked => exact fun other => absurd answer other
  · have notEnded : pending ∉ last.state.past.ended := by
      rw [accounted'.queued, empty, past]
      simp [fresh, absent]
    refine ⟨during, past, fresh, outstanding, ?matched, kept, ?calls, ?ends, ?blocked⟩
    case matched => simp [answer]
    case calls =>
      -- the call that blocks is counted against the pending task itself
      have bound := (List.subperm_of_subset (List.nodup_cons.2 ⟨absent, nodup⟩)
        (List.cons_subset.2 ⟨outstanding, subset⟩)).length_le
      simpa [waits] using bound
    case ends => simp [answer, notEnded]
    case blocked =>
      have known' : pending ∈ last.state.past.tasks := by simp [past, known]
      exact fun _ => ⟨answer, empty, accounted'.mem_running_iff.2 ⟨known', notEnded⟩⟩

/-- Whatever lines ran before, and whenever and in whatever order tasks end, a sequential command
that started is awaited without a lost or mistaken completion. -/
theorem awaited_of_started (moments : Nat → Moment) (lines : List (List Command))
    (before : List Command) (command : Command) {launches : List Launch} {pending : TaskId}
    {line ready : Timeline} {first second : List Event}
    (ran : run (executor moments) before (afterLines (executor moments) lines .start) =
      ⟨.ok launches, line, first⟩)
    (started : start (executor moments) command line =
      ⟨.ok ⟨command, some pending⟩, ready, second⟩)
    (sequential : command.concurrent = false) :
    ∃ during, Awaited pending ready during
      (settle (executor moments) ⟨command, some pending⟩ ready) := by
  have reached : TaskTable.Reached line.past line.table := by
    have lines := afterLines_keeps (Timeline.dispatch_keeps moments) (Timeline.waitAny_keeps moments)
      lines (show TaskTable.Reached Timeline.start.past Timeline.start.table from .empty)
    have commands := run_keeps (Timeline.dispatch_keeps moments) (Timeline.waitAny_keeps moments)
      before _ lines
    rwa [ran] at commands
  obtain ⟨asked, dispatched, _, _⟩ := start_eq_ok_iff.1 started
  obtain ⟨reached', known, fresh⟩ := fresh_of_dispatch reached dispatched
  simpa only [settle, sequential, Bool.false_eq_true, ↓reduceIte] using
    waitFor_awaited reached' known fresh

/-- The first task ends before the third one starts, and the second and third one end during the
waits for the third. -/
def leftoverMoments (clock : Nat) : Moment :=
  ⟨if clock = 1 then [1] else if clock = 3 then [2] else if clock = 5 then [3] else [],
    TaskTable.crashLauncher⟩

/-- The timeline on which the third task was started. -/
def leftoverTimeline : Timeline :=
  let crash : Job := ⟨none, [], .error (.foreign "RuntimeError" "")⟩
  ⟨⟨3, [(1, ["crash"]), (2, ["crash", "x"]), (3, ["crash", "y"])], [1],
      [(2, crash), (3, crash)]⟩, 3,
    [.accepted 1 ["crash"], .ended 1, .accepted 2 ["crash", "x"], .accepted 3 ["crash", "y"]]⟩

/-- A wait goes right with one leftover of an earlier line and one of its own line. -/
theorem awaited_leftovers :
    ∃ during, Awaited 3 leftoverTimeline during
      (settle (executor leftoverMoments) ⟨⟨"crash y", ["crash", "y"], false⟩, some 3⟩
        leftoverTimeline) :=
  awaited_of_started leftoverMoments [[⟨"crash", ["crash"], true⟩]]
    [⟨"crash x", ["crash", "x"], true⟩] ⟨"crash y", ["crash", "y"], false⟩ rfl rfl rfl

end CommandShell.Sequencer
