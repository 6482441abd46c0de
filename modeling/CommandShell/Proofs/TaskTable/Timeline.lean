import CommandShell.Proofs.Sequencer.Invariant
import CommandShell.Proofs.TaskTable.History

/-!
An executor whose tasks end while it is used. What no request decides is laid down moment by moment:
which running tasks end before a request is answered, and how programs start then. Over all
timelines of moments, tasks end at any time and in any order.
-/

namespace CommandShell

/-- What a request finds: the tasks that end before it is answered, in order, and a launcher. -/
structure Moment where
  ends : List TaskId
  launcher : Launcher

/-- A table with the number of requests made so far and with its history. -/
structure Timeline where
  table : TaskTable
  clock : Nat
  past : Past

namespace Timeline

/-- A table that nothing happened to. -/
def start : Timeline := ⟨.empty, 0, []⟩

/-- A task ends if it is running, and its watcher records how. -/
def endTask (task : TaskId) (line : Timeline) : Timeline × List Event :=
  match line.table.running.find? (·.1 == task) with
  | none => (line, [])
  | some entry =>
      ({ line with table := line.table.finish task, past := line.past ++ [.ended task] },
        TaskTable.ended task entry.2.join)

/-- Tasks end one after the other. -/
def endTasks : List TaskId → Timeline → Timeline × List Event
  | [], line => (line, [])
  | task :: rest, line =>
      let first := line.endTask task
      let later := endTasks rest first.1
      (later.1, first.2 ++ later.2)

/-- The next moment passes. -/
def pass (moments : Nat → Moment) (line : Timeline) : Timeline × List Event :=
  endTasks (moments line.clock).ends { line with clock := line.clock + 1 }

/-- What a dispatch adds to the history. -/
def requested (words : List String) : Except Failure (Option TaskId) → Past
  | .ok (some task) => [.accepted task words]
  | .ok none => [.refused words]
  | .error _ => []

/-- What a wait adds to the history. -/
def awaited : Except Failure TaskId → Past
  | .ok task => [.collected task]
  | .error _ => []

/-- Start a task in the next moment. -/
def dispatch (moments : Nat → Moment) (words : List String) : Step Timeline (Option TaskId) :=
  fun line =>
    let passed := line.pass moments
    let outcome := TaskTable.enroll (moments line.clock).launcher words passed.1.table
    ⟨outcome.answer,
      { passed.1 with
        table := outcome.state
        past := passed.1.past ++ requested words outcome.answer },
      .dispatch words :: passed.2 ++ outcome.events⟩

/-- Wait in the next moment. When no task has ended by then, none ends while the wait lasts. -/
def waitAny (moments : Nat → Moment) : Step Timeline TaskId := fun line =>
  let passed := line.pass moments
  let outcome := TaskTable.waitAny passed.1.table
  ⟨outcome.answer,
    { passed.1 with
      table := outcome.state
      past := passed.1.past ++ awaited outcome.answer },
    .wait :: passed.2 ++ outcome.events⟩

section Ends

/-- What the ends of tasks change: they leave the running tasks and join the queue in their order,
and nothing else happens. -/
structure Passed (line later : Timeline) (events : List Event) (ended : List TaskId) : Prop where
  past : later.past = line.past ++ ended.map .ended
  outstanding : later.table.outstanding = line.table.outstanding
  completed : later.table.completed = line.table.completed ++ ended
  running : ended.length + later.table.running.length ≤ line.table.running.length
  quiet : Event.wait ∉ events

theorem endTask_passed (task : TaskId) (line : Timeline) :
    ∃ ended, Passed line (line.endTask task).1 (line.endTask task).2 ended := by
  rcases found : line.table.running.find? (·.1 == task) with _ | entry
  · refine ⟨[], ?_⟩
    constructor <;> simp [endTask, found]
  · refine ⟨[task], ?_⟩
    have inside := List.mem_of_find?_eq_some found
    have same : entry.1 = task := by simpa using List.find?_some found
    have shorter : (line.table.running.filter (·.1 ≠ task)).length < line.table.running.length :=
      List.length_filter_lt_length_iff_exists.2 ⟨entry, inside, by simp [same]⟩
    constructor
    · simp [endTask, found]
    · simp [endTask, found, TaskTable.finish]
    · simp [endTask, found, TaskTable.finish]
    · simp only [endTask, found, TaskTable.finish, List.length_singleton]
      omega
    · intro inside
      rw [endTask, found] at inside
      rcases TaskTable.mem_ended inside with ⟨_, other⟩ | ⟨_, other⟩
      · cases other
      · cases other

theorem endTasks_passed (tasks : List TaskId) (line : Timeline) :
    ∃ ended, Passed line (endTasks tasks line).1 (endTasks tasks line).2 ended := by
  induction tasks generalizing line with
  | nil =>
      refine ⟨[], ?_⟩
      constructor <;> simp [endTasks]
  | cons task rest ih =>
      obtain ⟨first, one⟩ := endTask_passed task line
      obtain ⟨others, more⟩ := ih (line.endTask task).1
      refine ⟨first ++ others, ?_⟩
      constructor
      · simp [endTasks, more.past, one.past]
      · simp [endTasks, more.outstanding, one.outstanding]
      · simp [endTasks, more.completed, one.completed]
      · have := one.running
        have := more.running
        simp only [endTasks, List.length_append]
        omega
      · simpa [endTasks] using ⟨one.quiet, more.quiet⟩

theorem pass_passed (moments : Nat → Moment) (line : Timeline) :
    ∃ ended, Passed line (line.pass moments).1 (line.pass moments).2 ended := by
  obtain ⟨ended, passed⟩ :=
    endTasks_passed (moments line.clock).ends { line with clock := line.clock + 1 }
  exact ⟨ended, passed.past, passed.outstanding, passed.completed, passed.running, passed.quiet⟩

theorem endTask_reached (task : TaskId) {line : Timeline}
    (reached : TaskTable.Reached line.past line.table) :
    TaskTable.Reached (line.endTask task).1.past (line.endTask task).1.table := by
  rcases found : line.table.running.find? (·.1 == task) with _ | ⟨first, job⟩
  · simpa [endTask, found] using reached
  · have inside := List.mem_of_find?_eq_some found
    obtain rfl : first = task := by simpa using List.find?_some found
    simpa [endTask, found] using reached.move (.ended inside)

theorem endTasks_reached (tasks : List TaskId) {line : Timeline}
    (reached : TaskTable.Reached line.past line.table) :
    TaskTable.Reached (endTasks tasks line).1.past (endTasks tasks line).1.table := by
  induction tasks generalizing line with
  | nil => exact reached
  | cons task rest ih => exact ih (endTask_reached task reached)

theorem pass_reached (moments : Nat → Moment) {line : Timeline}
    (reached : TaskTable.Reached line.past line.table) :
    TaskTable.Reached (line.pass moments).1.past (line.pass moments).1.table := by
  have next : TaskTable.Reached { line with clock := line.clock + 1 }.past line.table := reached
  exact endTasks_reached (moments line.clock).ends next

end Ends

variable {moments : Nat → Moment} {line later : Timeline} {task : TaskId} {events : List Event}

/-- A wait that succeeds hands back the head of the queue after the ends of its moment. -/
theorem waitAny_ok (h : waitAny moments line = ⟨.ok task, later, events⟩) :
    ∃ ended, later.past = line.past ++ (ended.map .ended ++ [.collected task]) ∧
      line.table.completed ++ ended = task :: later.table.completed ∧
      ended.length + later.table.running.length ≤ line.table.running.length ∧
      events.count .wait = 1 := by
  obtain ⟨ended, passed⟩ := pass_passed moments line
  simp only [waitAny, Outcome.mk.injEq] at h
  obtain ⟨answer, rfl, rfl⟩ := h
  obtain ⟨rest, next, state, records⟩ := TaskTable.waitAny_eq_ok_iff.1
    (show TaskTable.waitAny (line.pass moments).1.table = ⟨.ok task, _, _⟩ by rw [← answer])
  refine ⟨ended, ?_, ?_, ?_, ?_⟩
  · simp [answer, awaited, passed.past]
  · rw [← passed.completed, next, state]
  · simpa [state] using passed.running
  · rw [List.cons_append, List.count_cons_self, List.count_append,
      List.count_eq_zero.2 passed.quiet, records]
    simp

/-- A wait that fails would block: nothing is in the queue after the ends of its moment. -/
theorem waitAny_error {failure : Failure}
    (h : waitAny moments line = ⟨.error failure, later, events⟩) :
    failure = .wouldBlock ∧ later.table.completed = [] ∧
      (∃ ended : List TaskId, later.past = line.past ++ ended.map .ended) ∧
      events.count .wait = 1 := by
  obtain ⟨ended, passed⟩ := pass_passed moments line
  simp only [waitAny, Outcome.mk.injEq] at h
  obtain ⟨answer, rfl, rfl⟩ := h
  obtain ⟨next, blocked, state, records⟩ := TaskTable.waitAny_eq_error_iff.1
    (show TaskTable.waitAny (line.pass moments).1.table = ⟨.error failure, _, _⟩ by rw [← answer])
  refine ⟨blocked, by rw [state, next], ⟨ended, ?_⟩, ?_⟩
  · simp [answer, awaited, passed.past]
  · rw [List.cons_append, List.count_cons_self, List.count_append,
      List.count_eq_zero.2 passed.quiet, records]
    simp

/-- A wait that fails hands no task back. -/
theorem outstanding_of_waitAny_error {failure : Failure}
    (h : waitAny moments line = ⟨.error failure, later, events⟩) :
    later.table.outstanding = line.table.outstanding := by
  obtain ⟨ended, passed⟩ := pass_passed moments line
  simp only [waitAny, Outcome.mk.injEq] at h
  obtain ⟨answer, rfl, rfl⟩ := h
  obtain ⟨_, _, state, _⟩ := TaskTable.waitAny_eq_error_iff.1
    (show TaskTable.waitAny (line.pass moments).1.table = ⟨.error failure, _, _⟩ by rw [← answer])
  rw [state, passed.outstanding]

/-- The executor on a timeline. -/
def executor (moments : Nat → Moment) : Executor Timeline where
  dispatch := dispatch moments
  waitAny := waitAny moments
  pending line := line.table.completed.length + line.table.running.length
  pending_lt h := by
    obtain ⟨ended, _, queue, running, _⟩ := waitAny_ok h
    have lengths := congrArg List.length queue
    simp only [List.length_append, List.length_cons] at lengths
    omega

theorem dispatch_keeps (moments : Nat → Moment) (words : List String) :
    ((executor moments).dispatch words).Keeps
      fun line => TaskTable.Reached line.past line.table := by
  intro line reached
  have passed := pass_reached moments reached
  rcases enrolled : TaskTable.enroll (moments line.clock).launcher words (line.pass moments).1.table
    with ⟨failure | _ | task, table, records⟩
  · obtain ⟨_, rfl, _⟩ := TaskTable.enroll_eq_error_iff.1 enrolled
    simpa [executor, dispatch, enrolled, requested] using passed
  · simpa [executor, dispatch, enrolled, requested] using passed.move (.refused enrolled)
  · simpa [executor, dispatch, enrolled, requested] using passed.move (.accepted enrolled)

theorem waitAny_keeps (moments : Nat → Moment) :
    (executor moments).waitAny.Keeps fun line => TaskTable.Reached line.past line.table := by
  intro line reached
  have passed := pass_reached moments reached
  rcases waited : TaskTable.waitAny (line.pass moments).1.table with ⟨failure | task, table, records⟩
  · obtain ⟨_, _, rfl, _⟩ := TaskTable.waitAny_eq_error_iff.1 waited
    simpa [executor, waitAny, waited, awaited] using passed
  · simpa [executor, waitAny, waited, awaited] using passed.move (.collected waited)

/-- A dispatch adds the ends of its moment and then its answer to the history. -/
theorem dispatch_past {words : List String} {answer : Except Failure (Option TaskId)}
    (h : (executor moments).dispatch words line = ⟨answer, later, events⟩) :
    ∃ ended : List TaskId, later.past =
      line.past ++ (ended.map .ended ++ requested words answer) := by
  obtain ⟨ended, passed⟩ := pass_passed moments line
  simp only [executor, dispatch, Outcome.mk.injEq] at h
  obtain ⟨rfl, rfl, rfl⟩ := h
  exact ⟨ended, by simp [passed.past]⟩

section Steps

/-- The next moment passes, as a step. -/
def passing (moments : Nat → Moment) : Step Timeline Unit := fun line =>
  ⟨.ok (), (line.pass moments).1, (line.pass moments).2⟩

/-- A request is answered once its moment has passed. -/
def enrolling (launcher : Launcher) (words : List String) : Step Timeline (Option TaskId) :=
  fun line =>
    let outcome := TaskTable.enroll launcher words line.table
    ⟨outcome.answer,
      { line with table := outcome.state, past := line.past ++ requested words outcome.answer },
      outcome.events⟩

/-- A task is handed back once its moment has passed. -/
def collecting : Step Timeline TaskId := fun line =>
  let outcome := TaskTable.waitAny line.table
  ⟨outcome.answer,
    { line with table := outcome.state, past := line.past ++ awaited outcome.answer },
    outcome.events⟩

theorem passing_apply (moments : Nat → Moment) (line : Timeline) :
    passing moments line = ⟨.ok (), (line.pass moments).1, (line.pass moments).2⟩ := rfl

theorem dispatch_eq (moments : Nat → Moment) (words : List String) (line : Timeline) :
    (executor moments).dispatch words line =
      (Step.tell [.dispatch words] >>= fun _ => passing moments >>= fun _ =>
        enrolling (moments line.clock).launcher words) line := by
  rw [Step.bind_ok (Step.tell_apply _ _), Step.bind_ok (passing_apply _ _)]
  rfl

theorem waitAny_eq (moments : Nat → Moment) :
    (executor moments).waitAny =
      Step.tell [.wait] >>= fun _ => passing moments >>= fun _ => collecting := by
  funext line
  rw [Step.bind_ok (Step.tell_apply _ _), Step.bind_ok (passing_apply _ _)]
  rfl

/-- What the end of one running task continues, a moment continues that passes. -/
theorem passing_continues {property : Timeline → List Event → Prop}
    (ticks : ∀ line told clock, property line told → property { line with clock := clock } told)
    (ends : ∀ line told task job, (task, job) ∈ line.table.running → property line told →
      property { line with table := line.table.finish task, past := line.past ++ [.ended task] }
        (told ++ TaskTable.ended task job.join)) :
    (passing moments).Continues property := by
  have many (tasks : List TaskId) : ∀ (line : Timeline) (told : List Event), property line told →
      property (endTasks tasks line).1 (told ++ (endTasks tasks line).2) := by
    induction tasks with
    | nil => simp [endTasks]
    | cons task rest ih =>
        intro line told holds
        rw [endTasks, ← List.append_assoc]
        apply ih
        rcases found : line.table.running.find? (·.1 == task) with _ | ⟨other, job⟩
        · simpa [endTask, found] using holds
        · have inside := List.mem_of_find?_eq_some found
          obtain rfl : other = task := by simpa using List.find?_some found
          simpa [endTask, found] using ends line told other job inside holds
  intro line told holds
  exact many _ _ told (ticks line told _ holds)

end Steps

end Timeline

end CommandShell
