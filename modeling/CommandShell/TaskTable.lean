import CommandShell.Executor

/-!
The bookkeeping of started tasks. Task numbers count up from one and none is used twice. A task is
outstanding from its start until a wait hands its number back.
-/

namespace CommandShell

/-- What a started task does on threads of its own, and how waiting for it ends. A task with a gate
is held at its start until the gate opens. -/
structure Job where
  gate? : Option String
  events : List Event
  join : Except Failure (Option Int)

/-- How a program is started with its arguments; a failure of the dispatch family means that it
cannot be started. -/
abbrev Launcher := String → List String → Except Failure Job

/-- What becomes of a request to start words: a record of why they are refused, or a job. -/
inductive Reply where
  | refused (notice : Notice)
  | started (job : Job)

/-- Empty words name no program. Only a failure of the dispatch family is a refusal. -/
def Launcher.reply (launcher : Launcher) : List String → Except Failure Reply
  | [] => .ok (.refused .emptyRefused)
  | program :: arguments =>
      match launcher program arguments with
      | .error failure =>
          if failure.family? = some .dispatch then .ok (.refused (.startRefused program failure))
          else .error failure
      | .ok job => .ok (.started job)

theorem Launcher.ne_nil_of_started {launcher : Launcher} {words : List String} {job : Job}
    (h : launcher.reply words = .ok (.started job)) : words ≠ [] := by
  rintro rfl
  cases h

/-- The tasks that were accepted: how many, which are outstanding with their words, which of these
ended, in order, and which still run. -/
structure TaskTable where
  accepted : Nat
  outstanding : List (TaskId × List String)
  completed : List TaskId
  running : List (TaskId × Job)

namespace TaskTable

/-- A table without tasks. -/
def empty : TaskTable := ⟨0, [], [], []⟩

/-- The number that the next accepted task gets. -/
def nextTask (table : TaskTable) : TaskId := table.accepted + 1

/-- A new task is outstanding and runs. -/
def accept (words : List String) (job : Job) (table : TaskTable) : TaskTable where
  accepted := table.accepted + 1
  outstanding := table.outstanding ++ [(table.nextTask, words)]
  completed := table.completed
  running := table.running ++ [(table.nextTask, job)]

/-- The thread that awaits a task records how it ended, unless a failure ends the wait that is meant for
the whole shell. -/
def ended (task : TaskId) : Except Failure (Option Int) → List Event
  | .ok status? => [.log (.watcher task) (.taskEnded task status?)]
  | .error failure => failure.records (.watcher task) (.joinFailed task failure)

theorem mem_ended {task : TaskId} {join : Except Failure (Option Int)} {event : Event}
    (inside : event ∈ ended task join) :
    (∃ status?, event = .log (.watcher task) (.taskEnded task status?)) ∨
      ∃ failure, event = .log (.watcher task) (.joinFailed task failure) := by
  cases join with
  | ok status? => exact .inl ⟨status?, List.mem_singleton.1 inside⟩
  | error failure => exact .inr ⟨failure, (Failure.mem_records_iff.1 inside).2⟩

/-- A running task ends: its number joins the queue of completed tasks. -/
def finish (task : TaskId) (table : TaskTable) : TaskTable :=
  { table with
    completed := table.completed ++ [task]
    running := table.running.filter (·.1 ≠ task) }

/-- Everything that a task does after its start. -/
def Job.course (task : TaskId) (job : Job) : List Event := job.events ++ ended task job.join

/-- The words a task was started with. -/
def wordsOf? (table : TaskTable) (task : TaskId) : Option (List String) :=
  (table.outstanding.find? (·.1 == task)).map (·.2)

/-- Hand back the task that ended first. It would block when none ended. -/
def waitAny : Step TaskTable TaskId := fun table =>
  match table.completed with
  | [] => ⟨.error .wouldBlock, table, []⟩
  | task :: rest =>
      let program := ((table.wordsOf? task).getD ["?"]).headD "?"
      ⟨.ok task,
        { table with
          completed := rest
          outstanding := table.outstanding.filter (·.1 ≠ task) },
        [.log .main (.taskCollected task program)]⟩

/-- Answer a request to start words. Only a job that starts changes the table. -/
def respond (words : List String) (reply : Except Failure Reply) :
    Step TaskTable (Option TaskId) := fun table =>
  match reply with
  | .error failure => ⟨.error failure, table, []⟩
  | .ok (.refused notice) => ⟨.ok none, table, [.log .main notice]⟩
  | .ok (.started job) =>
      ⟨.ok (some table.nextTask), table.accept words job,
        [.log .main (.taskStarted table.nextTask words)]⟩

/-- Start a task and leave it running. -/
def enroll (launcher : Launcher) (words : List String) : Step TaskTable (Option TaskId) :=
  respond words (launcher.reply words)

/-- Start a task. A task without a gate runs to its end before its number is handed out. -/
def dispatch (launcher : Launcher) (words : List String) : Step TaskTable (Option TaskId) :=
  fun table =>
    let reply := launcher.reply words
    let enrolled := respond words reply table
    match reply with
    | .ok (.started job) =>
        if job.gate?.isSome then enrolled
        else
          { enrolled with
            state := enrolled.state.finish table.nextTask
            events := Job.course table.nextTask job ++ enrolled.events }
    | _ => enrolled

/-- What a request does: it fails or is refused and changes nothing, its task is held at a gate, or its
task runs to its end. -/
inductive Dispatched (launcher : Launcher) (words : List String) (table : TaskTable) :
    Outcome TaskTable (Option TaskId) → Prop where
  | failed {failure : Failure} (reply : launcher.reply words = .error failure) :
      Dispatched launcher words table ⟨.error failure, table, []⟩
  | refused {notice : Notice} (reply : launcher.reply words = .ok (.refused notice)) :
      Dispatched launcher words table ⟨.ok none, table, [.log .main notice]⟩
  | held {job : Job} (reply : launcher.reply words = .ok (.started job))
      (gated : job.gate?.isSome) :
      Dispatched launcher words table ⟨.ok (some table.nextTask), table.accept words job,
        [.log .main (.taskStarted table.nextTask words)]⟩
  | done {job : Job} (reply : launcher.reply words = .ok (.started job))
      (free : job.gate? = none) :
      Dispatched launcher words table
        ⟨.ok (some table.nextTask), (table.accept words job).finish table.nextTask,
          Job.course table.nextTask job ++ [.log .main (.taskStarted table.nextTask words)]⟩

theorem dispatched (launcher : Launcher) (words : List String) (table : TaskTable) :
    Dispatched launcher words table (dispatch launcher words table) := by
  rcases reply : launcher.reply words with failure | notice | job
  · simpa [dispatch, respond, reply] using Dispatched.failed reply
  · simpa [dispatch, respond, reply] using Dispatched.refused reply
  · rcases gate : job.gate? with _ | name
    · simpa [dispatch, respond, reply, gate] using Dispatched.done reply gate
    · have gated : job.gate?.isSome = true := by rw [gate]; rfl
      simpa [dispatch, respond, reply, gate] using Dispatched.held reply gated

/-- Start a job and await it without the table: it gets no number and its end is not queued. Words are
needed, since the first one names the program. -/
def startAlone (launcher : Launcher) (words : List String) : Step TaskTable (Option Int) :=
  fun table =>
    match words with
    | [] => ⟨.error (.foreign "IndexError" "tuple index out of range"), table, []⟩
    | program :: arguments =>
        match launcher program arguments with
        | .error failure => ⟨.error failure, table, []⟩
        | .ok job => ⟨job.join, table, job.events⟩

section Answers

variable {table later : TaskTable} {task : TaskId} {words : List String} {events : List Event}

theorem waitAny_eq_ok_iff :
    waitAny table = ⟨.ok task, later, events⟩ ↔
      ∃ rest, table.completed = task :: rest ∧
        later = { table with
          completed := rest
          outstanding := table.outstanding.filter (·.1 ≠ task) } ∧
        events = [.log .main
          (.taskCollected task (((table.wordsOf? task).getD ["?"]).headD "?"))] := by
  rcases next : table.completed with _ | ⟨first, rest⟩
  · simp [waitAny, next]
  · simp only [waitAny, next, Outcome.mk.injEq, Except.ok.injEq, List.cons.injEq]
    constructor
    · rintro ⟨rfl, rfl, rfl⟩
      exact ⟨rest, ⟨rfl, rfl⟩, rfl, rfl⟩
    · rintro ⟨_, ⟨rfl, rfl⟩, rfl, rfl⟩
      exact ⟨rfl, rfl, rfl⟩

theorem waitAny_eq_error_iff {failure : Failure} :
    waitAny table = ⟨.error failure, later, events⟩ ↔
      table.completed = [] ∧ failure = .wouldBlock ∧ later = table ∧ events = [] := by
  rcases next : table.completed with _ | ⟨first, rest⟩
  · simp [waitAny, next, eq_comm]
  · simp [waitAny, next]

theorem enroll_eq_some_iff {launcher : Launcher} :
    enroll launcher words table = ⟨.ok (some task), later, events⟩ ↔
      ∃ job, launcher.reply words = .ok (.started job) ∧ task = table.nextTask ∧
        later = table.accept words job ∧ events = [.log .main (.taskStarted task words)] := by
  rcases reply : launcher.reply words with failure | notice | job
  · simp [enroll, respond, reply]
  · simp [enroll, respond, reply]
  · simp only [enroll, respond, reply, Outcome.mk.injEq, Except.ok.injEq, Option.some.injEq]
    constructor
    · rintro ⟨rfl, rfl, rfl⟩
      exact ⟨job, rfl, rfl, rfl, rfl⟩
    · rintro ⟨_, ⟨⟩, rfl, rfl, rfl⟩
      exact ⟨rfl, rfl, rfl⟩

theorem enroll_eq_none_iff {launcher : Launcher} :
    enroll launcher words table = ⟨.ok none, later, events⟩ ↔
      ∃ notice, launcher.reply words = .ok (.refused notice) ∧ later = table ∧
        events = [.log .main notice] := by
  rcases reply : launcher.reply words with failure | notice | job
  · simp [enroll, respond, reply]
  · simp [enroll, respond, reply, eq_comm]
  · simp [enroll, respond, reply]

theorem enroll_eq_error_iff {launcher : Launcher} {failure : Failure} :
    enroll launcher words table = ⟨.error failure, later, events⟩ ↔
      launcher.reply words = .error failure ∧ later = table ∧ events = [] := by
  rcases reply : launcher.reply words with failure | notice | job
  · simp [enroll, respond, reply, eq_comm]
  · simp [enroll, respond, reply]
  · simp [enroll, respond, reply]

end Answers

/-- The executor whose tasks are started by a launcher. -/
def executor (launcher : Launcher) : Executor TaskTable where
  dispatch := dispatch launcher
  waitAny := waitAny
  pending table := table.completed.length
  pending_lt h := by
    obtain ⟨rest, completed, rfl, _⟩ := waitAny_eq_ok_iff.1 h
    simp [completed]

/-- Open a gate: the tasks held there run to their ends one after the other, in the order of their
numbers. The answer is how many there were. -/
def release (gate : String) : Step TaskTable Nat := fun table =>
  let held := table.running.filter fun entry => entry.2.gate? == some gate
  ⟨.ok held.length, held.foldl (fun table entry => table.finish entry.1) table,
    held.flatMap fun entry => Job.course entry.1 entry.2⟩

/-- Wait for tasks until none is outstanding. -/
def drain (table : TaskTable) : Outcome TaskTable Unit :=
  if table.outstanding.isEmpty then ⟨.ok (), table, []⟩
  else
    match _waiting : waitAny table with
    | ⟨.error failure, later, events⟩ => ⟨.error failure, later, events⟩
    | ⟨.ok _, later, events⟩ => (drain later).after events
termination_by table.completed.length
decreasing_by
  obtain ⟨rest, completed, rfl, _⟩ := waitAny_eq_ok_iff.1 _waiting
  simp [completed]

end TaskTable

end CommandShell
