import CommandShell.TaskTable
import Mathlib.Data.List.Nodup
import Mathlib.Data.List.Perm.Basic
import Mathlib.Data.List.Range

/-!
Histories of a task table. Requests and ends of running tasks come in any order, and every dispatch
may find another launcher. `Accounted` says which parts of its history a table holds at every point,
and `Conserved` that no task number is lost, doubled or made up.
-/

namespace CommandShell

/-- One thing that happened to a table. -/
inductive Occurrence where
  | accepted (task : TaskId) (words : List String)
  | refused (words : List String)
  | ended (task : TaskId)
  | collected (task : TaskId)
  deriving DecidableEq, Repr

namespace Occurrence

@[simp] def accepted? : Occurrence → Option (TaskId × List String)
  | accepted task words => some (task, words)
  | _ => none

@[simp] def ended? : Occurrence → Option TaskId
  | ended task => some task
  | _ => none

@[simp] def collected? : Occurrence → Option TaskId
  | collected task => some task
  | _ => none

end Occurrence

/-- What happened to a table so far. -/
abbrev Past := List Occurrence

namespace Past

/-- The accepted tasks with their words. -/
def accepted (past : Past) : List (TaskId × List String) := past.filterMap Occurrence.accepted?

/-- The numbers of the accepted tasks. -/
def tasks (past : Past) : List TaskId := past.accepted.map (·.1)

/-- The tasks that ended. -/
def ended (past : Past) : List TaskId := past.filterMap Occurrence.ended?

/-- The tasks that waits handed back. -/
def collected (past : Past) : List TaskId := past.filterMap Occurrence.collected?

@[simp] theorem accepted_nil : accepted [] = [] := rfl

@[simp] theorem tasks_nil : tasks [] = [] := rfl

@[simp] theorem ended_nil : ended [] = [] := rfl

@[simp] theorem collected_nil : collected [] = [] := rfl

@[simp] theorem accepted_cons (first : Occurrence) (rest : Past) :
    accepted (first :: rest) = first.accepted?.toList ++ accepted rest := by
  cases first <;> rfl

@[simp] theorem tasks_cons (first : Occurrence) (rest : Past) :
    tasks (first :: rest) = first.accepted?.toList.map (·.1) ++ tasks rest := by
  simp [tasks]

@[simp] theorem ended_cons (first : Occurrence) (rest : Past) :
    ended (first :: rest) = first.ended?.toList ++ ended rest := by
  cases first <;> rfl

@[simp] theorem collected_cons (first : Occurrence) (rest : Past) :
    collected (first :: rest) = first.collected?.toList ++ collected rest := by
  cases first <;> rfl

@[simp] theorem accepted_append (first second : Past) :
    accepted (first ++ second) = accepted first ++ accepted second := List.filterMap_append

@[simp] theorem tasks_append (first second : Past) :
    tasks (first ++ second) = tasks first ++ tasks second := by simp [tasks]

@[simp] theorem ended_append (first second : Past) :
    ended (first ++ second) = ended first ++ ended second := List.filterMap_append

@[simp] theorem collected_append (first second : Past) :
    collected (first ++ second) = collected first ++ collected second := List.filterMap_append

@[simp] theorem accepted_map_ended (tasks : List TaskId) :
    accepted (tasks.map .ended) = [] := by
  induction tasks with
  | nil => rfl
  | cons task rest ih => exact ih

@[simp] theorem tasks_map_ended (ended : List TaskId) : tasks (ended.map .ended) = [] := by
  simp [tasks]

@[simp] theorem collected_map_ended (tasks : List TaskId) :
    collected (tasks.map .ended) = [] := by
  induction tasks with
  | nil => rfl
  | cons task rest ih => exact ih

end Past

namespace TaskTable

/-- What can happen to a table at any time: a request is answered, or a running task ends, however
its join ends. -/
inductive Move : TaskTable → Occurrence → TaskTable → Prop where
  | accepted {table later : TaskTable} {launcher : Launcher} {words : List String} {task : TaskId}
      {events : List Event} (h : enroll launcher words table = ⟨.ok (some task), later, events⟩) :
      Move table (.accepted task words) later
  | refused {table later : TaskTable} {launcher : Launcher} {words : List String}
      {events : List Event} (h : enroll launcher words table = ⟨.ok none, later, events⟩) :
      Move table (.refused words) later
  | ended {table : TaskTable} {task : TaskId} {job : Job} (h : (task, job) ∈ table.running) :
      Move table (.ended task) (table.finish task)
  | collected {table later : TaskTable} {task : TaskId} {events : List Event}
      (h : waitAny table = ⟨.ok task, later, events⟩) : Move table (.collected task) later

/-- The tables that moves lead to, with their histories. -/
inductive Reached : Past → TaskTable → Prop where
  | empty : Reached [] .empty
  | move {past : Past} {table later : TaskTable} {occurrence : Occurrence}
      (reached : Reached past table) (move : Move table occurrence later) :
      Reached (past ++ [occurrence]) later

/-- The first task numbers. -/
def firstTasks (count : Nat) : List TaskId :=
  (List.range count).map fun index : Nat => (index : Int) + 1

theorem firstTasks_succ (count : Nat) :
    firstTasks (count + 1) = firstTasks count ++ [(count : Int) + 1] := by
  simp [firstTasks, List.range_succ]

theorem firstTasks_nodup (count : Nat) : (firstTasks count).Nodup := by
  apply List.Nodup.map _ List.nodup_range
  intro first second same
  change (first : Int) + 1 = second + 1 at same
  omega

theorem not_mem_firstTasks (count : Nat) : (count : Int) + 1 ∉ firstTasks count := by
  simp only [firstTasks, List.mem_map, List.mem_range, not_exists, not_and]
  intro index below same
  omega

/-- A table holds what its history leaves: the accepted tasks that were not collected are
outstanding, those that did not end are running, and those that ended and were not collected wait in
the queue in the order of their ends. -/
structure Accounted (past : Past) (table : TaskTable) : Prop where
  numbered : past.tasks = firstTasks table.accepted
  named : ∀ entry ∈ past.accepted, entry.2 ≠ []
  outstanding : table.outstanding = past.accepted.filter (·.1 ∉ past.collected)
  running : table.running.map (·.1) = past.tasks.filter (· ∉ past.ended)
  queued : past.ended = past.collected ++ table.completed
  once : past.ended.Nodup
  known : past.ended ⊆ past.tasks

namespace Accounted

variable {past : Past} {table later : TaskTable} {task : TaskId} {words : List String}

theorem empty : Accounted [] .empty := by
  constructor <;> simp [firstTasks, TaskTable.empty]

theorem tasks_nodup (accounted : Accounted past table) : past.tasks.Nodup := by
  rw [accounted.numbered]
  exact firstTasks_nodup _

theorem collected_subset (accounted : Accounted past table) : past.collected ⊆ past.ended := by
  rw [accounted.queued]
  exact List.subset_append_left _ _

/-- The next task number was never used. -/
theorem nextTask_not_mem (accounted : Accounted past table) : table.nextTask ∉ past.tasks := by
  rw [accounted.numbered]
  exact not_mem_firstTasks _

theorem accept {job : Job} (accounted : Accounted past table) (nonempty : words ≠ []) :
    Accounted (past ++ [.accepted table.nextTask words]) (table.accept words job) := by
  have unused := accounted.nextTask_not_mem
  have notEnded : table.nextTask ∉ past.ended := fun inside => unused (accounted.known inside)
  have notCollected : table.nextTask ∉ past.collected := fun inside =>
    notEnded (accounted.collected_subset inside)
  constructor
  · simp [accounted.numbered, TaskTable.accept, firstTasks_succ, nextTask]
  · intro entry inside
    rw [Past.accepted_append, List.mem_append] at inside
    rcases inside with old | new
    · exact accounted.named entry old
    · obtain rfl : entry = (table.nextTask, words) := by simpa using new
      exact nonempty
  · simp [TaskTable.accept, accounted.outstanding, List.filter_append, notCollected]
  · simp [TaskTable.accept, accounted.running, List.filter_append, notEnded]
  · simpa [TaskTable.accept] using accounted.queued
  · simpa using accounted.once
  · simpa using List.subset_append_of_subset_left _ accounted.known

theorem refuse (accounted : Accounted past table) : Accounted (past ++ [.refused words]) table := by
  constructor
  · simpa using accounted.numbered
  · simpa using accounted.named
  · simpa using accounted.outstanding
  · simpa using accounted.running
  · simpa using accounted.queued
  · simpa using accounted.once
  · simpa using accounted.known

/-- A running task was accepted and did not end. -/
theorem mem_running_iff (accounted : Accounted past table) :
    task ∈ table.running.map (·.1) ↔ task ∈ past.tasks ∧ task ∉ past.ended := by
  simp [accounted.running]

theorem finish (accounted : Accounted past table) (running : task ∈ table.running.map (·.1)) :
    Accounted (past ++ [.ended task]) (table.finish task) := by
  obtain ⟨known, fresh⟩ := accounted.mem_running_iff.1 running
  constructor
  · simpa [TaskTable.finish] using accounted.numbered
  · simpa using accounted.named
  · simpa [TaskTable.finish] using accounted.outstanding
  · have kept : (table.running.filter (·.1 ≠ task)).map (·.1) =
        (table.running.map (·.1)).filter (· ≠ task) := by
      rw [List.filter_map]
      rfl
    have tasks : Past.tasks (past ++ [.ended task]) = past.tasks := by simp
    rw [TaskTable.finish, kept, accounted.running, List.filter_filter, tasks]
    refine List.filter_congr fun other _ => ?_
    simp [and_comm]
  · simp [TaskTable.finish, accounted.queued]
  · have apart : ∀ other ∈ past.ended, other ≠ task := fun other inside same =>
      fresh (same ▸ inside)
    simpa [List.nodup_append, accounted.once] using apart
  · simpa using ⟨accounted.known, known⟩

theorem collect {rest : List TaskId} (accounted : Accounted past table)
    (next : table.completed = task :: rest) :
    Accounted (past ++ [.collected task]) { table with
      completed := rest
      outstanding := table.outstanding.filter (·.1 ≠ task) } := by
  constructor
  · simpa using accounted.numbered
  · simpa using accounted.named
  · have accepted : Past.accepted (past ++ [.collected task]) = past.accepted := by simp
    rw [accounted.outstanding, List.filter_filter, accepted]
    refine List.filter_congr fun other _ => ?_
    simp [and_comm]
  · simpa using accounted.running
  · simp [accounted.queued, next]
  · simpa using accounted.once
  · simpa using accounted.known

theorem move {occurrence : Occurrence} (accounted : Accounted past table)
    (move : Move table occurrence later) : Accounted (past ++ [occurrence]) later := by
  cases move with
  | accepted h =>
      obtain ⟨job, started, rfl, rfl, _⟩ := enroll_eq_some_iff.1 h
      exact accounted.accept (Launcher.ne_nil_of_started started)
  | refused h =>
      obtain ⟨notice, _, rfl, _⟩ := enroll_eq_none_iff.1 h
      exact accounted.refuse
  | ended h => exact accounted.finish (List.mem_map_of_mem (f := (·.1)) h)
  | collected h =>
      obtain ⟨rest, next, rfl, _⟩ := waitAny_eq_ok_iff.1 h
      exact accounted.collect next

end Accounted

/-- A dispatch that settles is a request, and then the end of its task unless a gate holds it. -/
theorem Reached.dispatch {past : Past} {table : TaskTable} (reached : Reached past table)
    (launcher : Launcher) (words : List String) :
    ∃ more, Reached (past ++ more) (TaskTable.dispatch launcher words table).state := by
  have step := dispatched launcher words table
  generalize TaskTable.dispatch launcher words table = outcome at step
  cases step with
  | failed reply =>
      refine ⟨[], ?_⟩
      rwa [List.append_nil]
  | refused reply =>
      exact ⟨_, reached.move (.refused (enroll_eq_none_iff.2 ⟨_, reply, rfl, rfl⟩))⟩
  | held reply gated =>
      exact ⟨_, reached.move (.accepted (enroll_eq_some_iff.2 ⟨_, reply, rfl, rfl, rfl⟩))⟩
  | @done job reply free =>
      have accepted :=
        reached.move (.accepted (enroll_eq_some_iff.2 ⟨job, reply, rfl, rfl, rfl⟩))
      have running : (table.nextTask, job) ∈ (table.accept words job).running := by
        simp [accept]
      refine ⟨[.accepted table.nextTask words, .ended table.nextTask], ?_⟩
      simpa using accepted.move (.ended running)

theorem Reached.accounted {past : Past} {table : TaskTable} (reached : Reached past table) :
    Accounted past table := by
  induction reached with
  | empty => exact .empty
  | move _ move ih => exact ih.move move

/-- A table whose tasks have different numbers finds the words of every task. -/
theorem wordsOf?_eq_some_iff {table : TaskTable} (nodup : (table.outstanding.map (·.1)).Nodup)
    {task : TaskId} {words : List String} :
    table.wordsOf? task = some words ↔ (task, words) ∈ table.outstanding := by
  unfold wordsOf?
  generalize table.outstanding = entries at nodup ⊢
  induction entries with
  | nil => simp
  | cons entry rest ih =>
      rw [List.map_cons, List.nodup_cons] at nodup
      by_cases same : entry.1 = task
      · have absent : (task, words) ∉ rest := fun inside =>
          nodup.1 (same ▸ List.mem_map_of_mem (f := (·.1)) inside)
        rcases entry with ⟨first, found⟩
        simp_all [eq_comm]
      · have different : (task, words) ≠ entry := fun equal => same (equal ▸ rfl)
        simp [same, different, ih nodup.2]

namespace Accounted

variable {past : Past} {table : TaskTable} {task : TaskId}

theorem mem_completed_iff (accounted : Accounted past table) :
    task ∈ table.completed ↔ task ∈ past.ended ∧ task ∉ past.collected := by
  have once := accounted.once
  rw [accounted.queued, List.nodup_append] at once
  rw [accounted.queued, List.mem_append]
  constructor
  · intro inside
    exact ⟨.inr inside, fun taken => once.2.2 task taken task inside rfl⟩
  · rintro ⟨taken | inside, notTaken⟩
    · exact absurd taken notTaken
    · exact inside

theorem mem_outstanding_iff (accounted : Accounted past table) {words : List String} :
    (task, words) ∈ table.outstanding ↔ (task, words) ∈ past.accepted ∧ task ∉ past.collected := by
  simp [accounted.outstanding]

theorem outstanding_tasks (accounted : Accounted past table) :
    table.outstanding.map (·.1) = past.tasks.filter (· ∉ past.collected) := by
  rw [accounted.outstanding, Past.tasks, List.filter_map]
  rfl

theorem outstanding_nodup (accounted : Accounted past table) :
    (table.outstanding.map (·.1)).Nodup := by
  rw [accounted.outstanding_tasks]
  exact accounted.tasks_nodup.filter _

/-- An outstanding task still runs or waits in the queue. -/
theorem mem_outstanding_tasks_iff (accounted : Accounted past table) :
    task ∈ table.outstanding.map (·.1) ↔
      task ∈ table.running.map (·.1) ∨ task ∈ table.completed := by
  rw [accounted.outstanding_tasks, accounted.mem_running_iff, accounted.mem_completed_iff]
  have known : task ∈ past.ended → task ∈ past.tasks := fun inside => accounted.known inside
  have ended : task ∈ past.collected → task ∈ past.ended := fun inside =>
    accounted.collected_subset inside
  simp only [List.mem_filter, decide_eq_true_eq]
  tauto

/-- With an empty queue only running tasks are outstanding. -/
theorem outstanding_of_completed_eq_nil (accounted : Accounted past table)
    (empty : table.completed = []) :
    table.outstanding.map (·.1) = table.running.map (·.1) := by
  rw [accounted.outstanding_tasks, accounted.running, accounted.queued, empty, List.append_nil]

/-- With nothing outstanding the queue is empty. -/
theorem completed_of_outstanding_eq_nil (accounted : Accounted past table)
    (none : table.outstanding = []) : table.completed = [] := by
  refine List.eq_nil_iff_forall_not_mem.2 fun task inside => ?_
  have outstanding := accounted.mem_outstanding_tasks_iff.2 (.inr inside)
  simp [none] at outstanding

theorem outstanding_length (accounted : Accounted past table) :
    table.outstanding.length + past.collected.length = past.accepted.length := by
  have once := accounted.once
  rw [accounted.queued, List.nodup_append] at once
  have taken : (past.tasks.filter (· ∈ past.collected)).Perm past.collected := by
    refine (List.perm_ext_iff_of_nodup (accounted.tasks_nodup.filter _) once.1).2 fun task => ?_
    have known : task ∈ past.collected → task ∈ past.tasks := fun inside =>
      accounted.known (accounted.collected_subset inside)
    simpa using known
  have split : past.tasks.length = _ := List.length_eq_length_filter_add (· ∈ past.collected)
  calc
    table.outstanding.length + past.collected.length
        = (past.tasks.filter (· ∉ past.collected)).length + past.collected.length := by
      rw [← accounted.outstanding_tasks, List.length_map]
    _ = (past.tasks.filter (· ∈ past.collected)).length +
          (past.tasks.filter (· ∉ past.collected)).length := by
      rw [taken.length_eq, Nat.add_comm]
    _ = past.tasks.length := by simp [split]
    _ = past.accepted.length := by rw [Past.tasks, List.length_map]

end Accounted

/-- No task number is lost, doubled or made up. -/
structure Conserved (past : Past) (table : TaskTable) : Prop where
  /-- Accepted tasks count up from one, and a refusal uses up no number. -/
  numbered : past.tasks = firstTasks past.accepted.length
  next : table.nextTask = past.accepted.length + 1
  running : ∀ task, task ∈ table.running.map (·.1) ↔ task ∈ past.tasks ∧ task ∉ past.ended
  outstanding : ∀ task, task ∈ table.outstanding.map (·.1) ↔
    task ∈ table.running.map (·.1) ∨ task ∈ table.completed
  disjoint : (table.running.map (·.1)).Disjoint table.completed
  completed_nodup : table.completed.Nodup
  outstanding_nodup : (table.outstanding.map (·.1)).Nodup
  /-- Every outstanding task is listed with the words it was accepted with. -/
  words : ∀ task words, table.wordsOf? task = some words ↔
    task ∈ table.outstanding.map (·.1) ∧ (task, words) ∈ past.accepted
  outstanding_length :
    table.outstanding.length + past.collected.length = past.accepted.length
  /-- Waits hand tasks back in the order of their ends. -/
  order : past.ended = past.collected ++ table.completed
  once : past.ended.Nodup
  known : past.ended ⊆ past.tasks
  /-- A wait blocks only when every task that ended was handed back. -/
  answers : (∃ task later events, waitAny table = ⟨.ok task, later, events⟩) ↔
    past.collected ≠ past.ended
  /-- A wait finds the words of the task it hands back, and records the program that they name. -/
  program : ∀ task later events, waitAny table = ⟨.ok task, later, events⟩ →
    ∃ program arguments, table.wordsOf? task = some (program :: arguments) ∧
      (task, program :: arguments) ∈ past.accepted ∧
      events = [.log .main (.taskCollected task program)]

theorem Accounted.accepted_length {past : Past} {table : TaskTable}
    (accounted : Accounted past table) : table.accepted = past.accepted.length := by
  have lengths := congrArg List.length accounted.numbered
  simpa [firstTasks, Past.tasks] using lengths.symm

/-- A wait hands back the first task of the queue and records the program it was accepted with. -/
theorem Accounted.program_of_waitAny {past : Past} {table later : TaskTable} {task : TaskId}
    {events : List Event} (accounted : Accounted past table)
    (h : waitAny table = ⟨.ok task, later, events⟩) :
    ∃ program arguments, table.wordsOf? task = some (program :: arguments) ∧
      (task, program :: arguments) ∈ past.accepted ∧
      events = [.log .main (.taskCollected task program)] := by
  obtain ⟨rest, next, _, rfl⟩ := waitAny_eq_ok_iff.1 h
  have outstanding : task ∈ table.outstanding.map (·.1) :=
    accounted.mem_outstanding_tasks_iff.2 (.inr (by simp [next]))
  obtain ⟨⟨_, words⟩, inside, rfl⟩ := List.mem_map.1 outstanding
  have accepted := (accounted.mem_outstanding_iff.1 inside).1
  have found := (wordsOf?_eq_some_iff accounted.outstanding_nodup).2 inside
  rcases words with _ | ⟨program, arguments⟩
  · exact absurd rfl (accounted.named _ accepted)
  · exact ⟨program, arguments, found, accepted, by simp [found]⟩

/-- Whatever happens to a table in whatever order, its task numbers are conserved. -/
theorem conserved_of_reached {past : Past} {table : TaskTable} (reached : Reached past table) :
    Conserved past table := by
  have accounted := reached.accounted
  have length := accounted.accepted_length
  constructor
  case numbered => rw [accounted.numbered, length]
  case next => rw [nextTask, length]
  case running => exact fun _ => accounted.mem_running_iff
  case outstanding => exact fun _ => accounted.mem_outstanding_tasks_iff
  case disjoint =>
    intro task running completed
    exact (accounted.mem_running_iff.1 running).2 (accounted.mem_completed_iff.1 completed).1
  case completed_nodup =>
    have once := accounted.once
    rw [accounted.queued] at once
    exact once.of_append_right
  case outstanding_nodup => exact accounted.outstanding_nodup
  case words =>
    intro task words
    rw [wordsOf?_eq_some_iff accounted.outstanding_nodup, accounted.mem_outstanding_iff,
      accounted.outstanding_tasks, List.mem_filter]
    have known : (task, words) ∈ past.accepted → task ∈ past.tasks := fun inside =>
      List.mem_map_of_mem (f := (·.1)) inside
    simp only [decide_eq_true_eq]
    tauto
  case outstanding_length => exact accounted.outstanding_length
  case order => exact accounted.queued
  case once => exact accounted.once
  case known => exact accounted.known
  case answers =>
    rw [accounted.queued]
    rcases next : table.completed with _ | ⟨task, rest⟩
    · simp [waitAny, next]
    · simp [waitAny, next]
  case program => exact fun _ _ _ h => accounted.program_of_waitAny h

/-- A launcher that knows one program, whose join fails. -/
def crashLauncher : Launcher := fun program _ =>
  if program = "crash" then .ok ⟨none, [], .error (.foreign "RuntimeError" "")⟩
  else .error (.unknownProgram program ["crash"])

/-- The second task ends and is collected before the first one ends, with refusals between. -/
def overtaking : Past := [.accepted 1 ["crash"], .refused ["nope", "x"], .refused [],
  .accepted 2 ["crash", "x"], .ended 2, .collected 2, .ended 1]

theorem overtaking_reached : Reached overtaking ⟨2, [(1, ["crash"])], [1], []⟩ := by
  let crash : Job := ⟨none, [], .error (.foreign "RuntimeError" "")⟩
  let one : TaskTable := ⟨1, [(1, ["crash"])], [], [(1, crash)]⟩
  let two : TaskTable :=
    ⟨2, [(1, ["crash"]), (2, ["crash", "x"])], [], [(1, crash), (2, crash)]⟩
  let three : TaskTable := ⟨2, [(1, ["crash"])], [], [(1, crash)]⟩
  have accepted : Move .empty (.accepted 1 ["crash"]) one :=
    .accepted (show enroll crashLauncher _ _ = _ from rfl)
  have refused : Move one (.refused ["nope", "x"]) one :=
    .refused (show enroll crashLauncher _ _ = _ from rfl)
  have empty : Move one (.refused []) one := .refused (show enroll crashLauncher _ _ = _ from rfl)
  have accepted' : Move one (.accepted 2 ["crash", "x"]) two :=
    .accepted (show enroll crashLauncher _ _ = _ from rfl)
  have ended : Move two (.ended 2) (two.finish 2) := @Move.ended two 2 crash (by simp [two])
  have collected : Move (two.finish 2) (.collected 2) three := .collected rfl
  have ended' : Move three (.ended 1) (three.finish 1) := @Move.ended three 1 crash (by simp [three])
  exact ((((((Reached.empty.move accepted).move refused).move empty).move accepted').move
    ended).move collected).move ended'

/-- Numbers are conserved when one task overtakes another. -/
theorem conserved_overtaking :
    Reached overtaking ⟨2, [(1, ["crash"])], [1], []⟩ ∧
      Conserved overtaking ⟨2, [(1, ["crash"])], [1], []⟩ :=
  ⟨overtaking_reached, conserved_of_reached overtaking_reached⟩

end TaskTable

end CommandShell
