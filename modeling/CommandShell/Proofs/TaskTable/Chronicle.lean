import CommandShell.Proofs.TaskTable.History
import CommandShell.Proofs.TaskTable.Settled

/-!
What tasks do, one thing at a time and in any order among them. A task may end once all of its course
has happened. `stage_of_chronicled` says how far each task is at every point, so that what a task does
is always the beginning of its own lifetime, whatever the others do.
-/

namespace CommandShell

/-- One thing that happens among tasks: a change of the table, or a part of the course of a task. -/
inductive Occasion where
  | moved (occurrence : Occurrence)
  | did (task : TaskId) (event : Event)
  deriving DecidableEq, Repr

namespace Occasion

/-- The task that an occasion is about. -/
def task? : Occasion → Option TaskId
  | moved (.accepted task _) => some task
  | moved (.refused _) => none
  | moved (.ended task) => some task
  | moved (.collected task) => some task
  | did task _ => some task

def occurrence? : Occasion → Option Occurrence
  | moved occurrence => some occurrence
  | did _ _ => none

def event? : Occasion → Option Event
  | moved _ => none
  | did _ event => some event

end Occasion

/-- What happened among tasks so far. -/
abbrev Chronicle := List Occasion

namespace Chronicle

/-- What a task did so far. -/
def own (task : TaskId) (chronicle : Chronicle) : Chronicle :=
  chronicle.filter (·.task? == some task)

/-- What happened to the table. -/
def past (chronicle : Chronicle) : Past := chronicle.filterMap Occasion.occurrence?

/-- The events of a task so far. -/
def doneBy (task : TaskId) (chronicle : Chronicle) : List Event :=
  (chronicle.own task).filterMap Occasion.event?

theorem past_append (first second : Chronicle) : past (first ++ second) = past first ++ past second :=
  List.filterMap_append

theorem past_append_moved (chronicle : Chronicle) (occurrence : Occurrence) :
    past (chronicle ++ [.moved occurrence]) = chronicle.past ++ [occurrence] := past_append _ _

theorem past_append_did (chronicle : Chronicle) (task : TaskId) (event : Event) :
    past (chronicle ++ [.did task event]) = chronicle.past := by
  rw [past_append]
  exact List.append_nil _

theorem mem_accepted_iff {chronicle : Chronicle} {task : TaskId} {words : List String} :
    (task, words) ∈ chronicle.past.accepted ↔ .moved (.accepted task words) ∈ chronicle := by
  rw [Past.accepted, past, List.filterMap_filterMap, List.mem_filterMap]
  constructor
  · rintro ⟨occasion, inside, same⟩
    rcases occasion with (⟨_, _⟩ | _ | _ | _) | _ <;> cases same
    exact inside
  · exact fun inside => ⟨_, inside, rfl⟩

theorem own_append_other {task : TaskId} {occasion : Occasion} (other : occasion.task? ≠ some task)
    (chronicle : Chronicle) : own task (chronicle ++ [occasion]) = own task chronicle := by
  simp [own, other]

theorem own_append_did_other {task other : TaskId} (different : task ≠ other) (event : Event)
    (chronicle : Chronicle) : own other (chronicle ++ [.did task event]) = own other chronicle := by
  apply own_append_other
  simpa [Occasion.task?] using different

theorem own_append_self {task : TaskId} {occasion : Occasion} (same : occasion.task? = some task)
    (chronicle : Chronicle) :
    own task (chronicle ++ [occasion]) = own task chronicle ++ [occasion] := by
  simp [own, same]

theorem own_append (task : TaskId) (first second : Chronicle) :
    own task (first ++ second) = own task first ++ own task second := List.filter_append ..

theorem own_map_did (task : TaskId) (events : List Event) :
    own task (events.map (.did task)) = events.map (.did task) := by
  simp [own, Occasion.task?]

theorem filterMap_map_did (task : TaskId) (events : List Event) :
    (events.map (Occasion.did task)).filterMap Occasion.event? = events := by
  induction events with
  | nil => rfl
  | cons event rest ih => exact congrArg (event :: ·) ih

theorem doneBy_append_did (task : TaskId) (chronicle : Chronicle) (events : List Event) :
    doneBy task (chronicle ++ events.map (.did task)) = chronicle.doneBy task ++ events := by
  rw [doneBy, own_append, own_map_did, List.filterMap_append, filterMap_map_did]
  rfl

theorem tasks_append_other {task : TaskId} {occasion : Occasion}
    (other : occasion.task? ≠ some task) {chronicle : Chronicle}
    (unknown : task ∉ chronicle.past.tasks) : task ∉ (past (chronicle ++ [occasion])).tasks := by
  cases occasion with
  | did task event => rwa [past_append_did]
  | moved occurrence =>
      rw [past_append_moved, Past.tasks_append, List.mem_append, not_or]
      refine ⟨unknown, fun new => other ?_⟩
      cases occurrence with
      | accepted task' words =>
          obtain rfl : task = task' := by simpa using new
          rfl
      | refused words => cases new
      | ended task' => cases new
      | collected task' => cases new

/-- What a task does from its request until it is handed back. -/
def lifetime (task : TaskId) (words : List String) (job : Job) : Chronicle :=
  .moved (.accepted task words) :: (TaskTable.Job.course task job).map (.did task) ++
    [.moved (.ended task), .moved (.collected task)]

end Chronicle

namespace TaskTable

/-- The tables that come about when the jobs of a launcher run side by side, with their chronicles.
Any running task may do what comes next in its course, and end after all of it. Requests come one at
a time, so a task has its number from its first deed on. -/
inductive Chronicled (launcher : Launcher) : Chronicle → TaskTable → Prop where
  | empty : Chronicled launcher [] .empty
  | accepted {chronicle : Chronicle} {table later : TaskTable} {words : List String}
      {task : TaskId} {events : List Event} (before : Chronicled launcher chronicle table)
      (h : enroll launcher words table = ⟨.ok (some task), later, events⟩) :
      Chronicled launcher (chronicle ++ [.moved (.accepted task words)]) later
  | refused {chronicle : Chronicle} {table later : TaskTable} {words : List String}
      {events : List Event} (before : Chronicled launcher chronicle table)
      (h : enroll launcher words table = ⟨.ok none, later, events⟩) :
      Chronicled launcher (chronicle ++ [.moved (.refused words)]) later
  | did {chronicle : Chronicle} {table : TaskTable} {task : TaskId} {job : Job}
      {event : Event} (before : Chronicled launcher chronicle table)
      (running : (task, job) ∈ table.running)
      (next : chronicle.doneBy task ++ [event] <+: Job.course task job) :
      Chronicled launcher (chronicle ++ [.did task event]) table
  | ended {chronicle : Chronicle} {table : TaskTable} {task : TaskId} {job : Job}
      (before : Chronicled launcher chronicle table) (running : (task, job) ∈ table.running)
      (all : chronicle.doneBy task = Job.course task job) :
      Chronicled launcher (chronicle ++ [.moved (.ended task)]) (table.finish task)
  | collected {chronicle : Chronicle} {table later : TaskTable} {task : TaskId}
      {events : List Event} (before : Chronicled launcher chronicle table)
      (h : waitAny table = ⟨.ok task, later, events⟩) :
      Chronicled launcher (chronicle ++ [.moved (.collected task)]) later

variable {launcher : Launcher} {chronicle : Chronicle} {table later : TaskTable} {task : TaskId}

/-- What happened to the table is one of its histories. -/
theorem Chronicled.reached (chronicled : Chronicled launcher chronicle table) :
    Reached chronicle.past table := by
  induction chronicled with
  | empty => exact .empty
  | accepted before h ih =>
      rw [Chronicle.past_append_moved]
      exact ih.move (.accepted h)
  | refused before h ih =>
      rw [Chronicle.past_append_moved]
      exact ih.move (.refused h)
  | did before running next ih => rwa [Chronicle.past_append_did]
  | ended before running all ih =>
      rw [Chronicle.past_append_moved]
      exact ih.move (.ended running)
  | collected before h ih =>
      rw [Chronicle.past_append_moved]
      exact ih.move (.collected h)

/-- How far a task is: it is still to come, it has done some of its course, it ended and waits in the
queue, or it was handed back. -/
inductive Stage (launcher : Launcher) (chronicle : Chronicle) (table : TaskTable) (task : TaskId) :
    Prop where
  | coming (unknown : task ∉ chronicle.past.tasks) (own : chronicle.own task = [])
  | running {words : List String} {job : Job} {done rest : List Event}
      (started : launcher.reply words = .ok (.started job)) (runs : (task, job) ∈ table.running)
      (course : Job.course task job = done ++ rest)
      (own : chronicle.own task = .moved (.accepted task words) :: done.map (.did task))
  | queued {words : List String} {job : Job} (started : launcher.reply words = .ok (.started job))
      (ended : task ∈ table.completed)
      (own : chronicle.own task = .moved (.accepted task words) ::
        (Job.course task job).map (.did task) ++ [.moved (.ended task)])
  | handed {words : List String} {job : Job} (started : launcher.reply words = .ok (.started job))
      (collected : task ∈ chronicle.past.collected)
      (own : chronicle.own task = Chronicle.lifetime task words job)

namespace Stage

/-- A task is as far as before when something happens that is about another task and leaves it where
it was. -/
theorem frame {occasion : Occasion} (stage : Stage launcher chronicle table task)
    (other : occasion.task? ≠ some task)
    (runs : ∀ job, (task, job) ∈ table.running → (task, job) ∈ later.running)
    (waits : task ∈ table.completed → task ∈ later.completed) :
    Stage launcher (chronicle ++ [occasion]) later task := by
  have same := Chronicle.own_append_other other chronicle
  cases stage with
  | coming unknown own =>
      exact .coming (Chronicle.tasks_append_other other unknown) (same.trans own)
  | running started inside course own => exact .running started (runs _ inside) course (same.trans own)
  | queued started ended own => exact .queued started (waits ended) (same.trans own)
  | handed started collected own =>
      refine .handed started ?_ (same.trans own)
      rw [Chronicle.past_append, Past.collected_append]
      exact List.mem_append_left _ collected

end Stage

/-- Different tasks run under different numbers. -/
theorem Accounted.running_nodup {past : Past} (accounted : Accounted past table) :
    (table.running.map (·.1)).Nodup := by
  rw [accounted.running]
  exact accounted.tasks_nodup.filter _

theorem Accounted.job_unique {past : Past} (accounted : Accounted past table) {job job' : Job}
    (one : (task, job) ∈ table.running) (two : (task, job') ∈ table.running) : job = job' := by
  have same := List.inj_on_of_nodup_map accounted.running_nodup one two rfl
  exact (Prod.mk.inj same).2

theorem doneBy_eq_of_silent {words : List String} {done : List Event} {ending : Chronicle}
    (own : chronicle.own task =
      .moved (.accepted task words) :: done.map (.did task) ++ ending)
    (silent : ending.filterMap Occasion.event? = []) : chronicle.doneBy task = done := by
  rw [Chronicle.doneBy, own, List.filterMap_append, silent, List.append_nil]
  exact Chronicle.filterMap_map_did task done

theorem doneBy_eq {words : List String} {done : List Event}
    (own : chronicle.own task = .moved (.accepted task words) :: done.map (.did task)) :
    chronicle.doneBy task = done :=
  doneBy_eq_of_silent (own.trans (List.append_nil _).symm) rfl

namespace Stage

variable (accounted : Accounted chronicle.past table)

include accounted

theorem own_eq_nil (stage : Stage launcher chronicle table task)
    (unknown : task ∉ chronicle.past.tasks) : chronicle.own task = [] := by
  cases stage with
  | coming _ own => exact own
  | running started runs course own =>
      exact absurd (accounted.mem_running_iff.1 (List.mem_map_of_mem runs)).1 unknown
  | queued started ended own =>
      exact absurd (accounted.known (accounted.mem_completed_iff.1 ended).1) unknown
  | handed started collected own =>
      exact absurd (accounted.known (accounted.collected_subset collected)) unknown

/-- A task that runs has done the beginning of its course. -/
theorem of_running (stage : Stage launcher chronicle table task) {job : Job}
    (runs : (task, job) ∈ table.running) :
    ∃ words, launcher.reply words = .ok (.started job) ∧
      chronicle.doneBy task <+: Job.course task job ∧
      chronicle.own task =
        .moved (.accepted task words) :: (chronicle.doneBy task).map (.did task) := by
  obtain ⟨known, fresh⟩ := accounted.mem_running_iff.1 (List.mem_map_of_mem runs)
  cases stage with
  | coming unknown own => exact absurd known unknown
  | @running words job' done rest started runs' course own =>
      obtain rfl := accounted.job_unique runs runs'
      have done := doneBy_eq own
      exact ⟨words, started, done ▸ ⟨rest, course.symm⟩, done ▸ own⟩
  | queued started ended own => exact absurd (accounted.mem_completed_iff.1 ended).1 fresh
  | handed started collected own => exact absurd (accounted.collected_subset collected) fresh

/-- A task in the queue has done all of its course and ended. -/
theorem of_completed (stage : Stage launcher chronicle table task)
    (waits : task ∈ table.completed) :
    ∃ words job, launcher.reply words = .ok (.started job) ∧
      chronicle.own task = .moved (.accepted task words) ::
        (Job.course task job).map (.did task) ++ [.moved (.ended task)] := by
  obtain ⟨ended, left⟩ := accounted.mem_completed_iff.1 waits
  cases stage with
  | coming unknown own => exact absurd (accounted.known ended) unknown
  | running started runs course own =>
      exact absurd ended (accounted.mem_running_iff.1 (List.mem_map_of_mem runs)).2
  | queued started _ own => exact ⟨_, _, started, own⟩
  | handed started collected own => exact absurd collected left

end Stage

/-- How far every task is at every point. -/
theorem stage_of_chronicled (chronicled : Chronicled launcher chronicle table) (task : TaskId) :
    Stage launcher chronicle table task := by
  induction chronicled with
  | empty => exact .coming List.not_mem_nil rfl
  | @accepted chronicle table later words new events before h ih =>
      obtain ⟨job, started, rfl, rfl, _⟩ := enroll_eq_some_iff.1 h
      have accounted := before.reached.accounted
      by_cases same : task = table.nextTask
      · subst same
        have nothing := ih.own_eq_nil accounted accounted.nextTask_not_mem
        refine .running started (List.mem_append_right _ List.mem_cons_self)
          (List.nil_append _).symm ?_
        rw [Chronicle.own_append_self rfl, nothing]
        rfl
      · exact ih.frame (by simpa [Occasion.task?] using Ne.symm same)
          (fun _ => List.mem_append_left _) id
  | @refused chronicle table later words events before h ih =>
      obtain ⟨notice, refused, rfl, _⟩ := enroll_eq_none_iff.1 h
      exact ih.frame (by simp [Occasion.task?]) (fun _ => id) id
  | @did chronicle table other job event before running next ih =>
      by_cases same : task = other
      · subst same
        obtain ⟨words, started, _, own⟩ := ih.of_running before.reached.accounted running
        obtain ⟨rest, course⟩ := next
        refine .running started running course.symm ?_
        rw [Chronicle.own_append_self rfl, own]
        simp
      · exact ih.frame (by simpa [Occasion.task?] using Ne.symm same) (fun _ => id) id
  | @ended chronicle table other job before running all ih =>
      by_cases same : task = other
      · subst same
        obtain ⟨words, started, _, own⟩ := ih.of_running before.reached.accounted running
        refine .queued started (List.mem_append_right _ List.mem_cons_self) ?_
        rw [Chronicle.own_append_self rfl, own, all]
      · refine ih.frame (by simpa [Occasion.task?] using Ne.symm same) (fun job inside => ?_)
          (List.mem_append_left _)
        exact List.mem_filter.2 ⟨inside, by simpa using same⟩
  | @collected chronicle table later other events before h ih =>
      obtain ⟨rest, next, rfl, _⟩ := waitAny_eq_ok_iff.1 h
      by_cases same : task = other
      · subst same
        have waits : task ∈ table.completed := next ▸ List.mem_cons_self
        obtain ⟨words, job, started, own⟩ := ih.of_completed before.reached.accounted waits
        refine .handed started ?_ ?_
        · rw [Chronicle.past_append_moved, Past.collected_append]
          exact List.mem_append_right _ List.mem_cons_self
        · rw [Chronicle.own_append_self rfl, own, Chronicle.lifetime]
          simp
      · refine ih.frame (by simpa [Occasion.task?] using Ne.symm same) (fun _ => id) fun waits => ?_
        rw [next] at waits
        exact (List.mem_cons.1 waits).resolve_left same

theorem Accounted.words_unique {past : Past} (accounted : Accounted past table)
    {words words' : List String} (one : (task, words) ∈ past.accepted)
    (two : (task, words') ∈ past.accepted) : words = words' :=
  (Prod.mk.inj (List.inj_on_of_nodup_map accounted.tasks_nodup one two rfl)).2

theorem Chronicled.words_of_running (chronicled : Chronicled launcher chronicle table) {job : Job}
    (running : (task, job) ∈ table.running) :
    ∃ words, (task, words) ∈ chronicle.past.accepted ∧
      launcher.reply words = .ok (.started job) := by
  obtain ⟨words, started, _, own⟩ :=
    (stage_of_chronicled chronicled task).of_running chronicled.reached.accounted running
  have inside : .moved (.accepted task words) ∈ chronicle.own task := own ▸ List.mem_cons_self
  exact ⟨words, Chronicle.mem_accepted_iff.2 (List.mem_filter.1 inside).1, started⟩

section Courses

/-- How far a task is that was accepted with words, with the job that these words start. -/
theorem Chronicled.exists_job (chronicled : Chronicled launcher chronicle table)
    {words : List String} (accepted : (task, words) ∈ chronicle.past.accepted) :
    ∃ job, launcher.reply words = .ok (.started job) ∧
      ((task, job) ∈ table.running ∧ chronicle.doneBy task <+: Job.course task job ∧
          chronicle.own task =
            .moved (.accepted task words) :: (chronicle.doneBy task).map (.did task) ∨
        task ∈ chronicle.past.ended ∧ chronicle.doneBy task = Job.course task job ∧
          chronicle.own task <+: Chronicle.lifetime task words job) := by
  have accounted := chronicled.reached.accounted
  have inside : .moved (.accepted task words) ∈ chronicle.own task :=
    List.mem_filter.2 ⟨Chronicle.mem_accepted_iff.1 accepted, by simp [Occasion.task?]⟩
  cases stage_of_chronicled chronicled task with
  | coming unknown own =>
      rw [own] at inside
      exact absurd inside List.not_mem_nil
  | @running words' job done rest started runs course own =>
      obtain rfl : words = words' := by simpa [own] using inside
      have done' := doneBy_eq own
      exact ⟨job, started, .inl ⟨runs, done' ▸ ⟨rest, course.symm⟩, done' ▸ own⟩⟩
  | @queued words' job started ended own =>
      obtain rfl : words = words' := by simpa [own] using inside
      have ended' := (accounted.mem_completed_iff.1 ended).1
      refine ⟨job, started, .inr ⟨ended', doneBy_eq_of_silent own rfl, ?_⟩⟩
      rw [own, Chronicle.lifetime]
      simp
  | @handed words' job started collected own =>
      obtain rfl : words = words' := by simpa [own, Chronicle.lifetime] using inside
      have ended := accounted.collected_subset collected
      exact ⟨job, started, .inr ⟨ended, doneBy_eq_of_silent own rfl, own ▸ List.prefix_rfl⟩⟩

/-- A running task can do the rest of its course. -/
theorem Chronicled.proceed {job : Job} (chronicled : Chronicled launcher chronicle table)
    (running : (task, job) ∈ table.running) {rest : List Event}
    (course : chronicle.doneBy task ++ rest = Job.course task job) :
    Chronicled launcher (chronicle ++ rest.map (.did task)) table := by
  induction rest generalizing chronicle with
  | nil => simpa using chronicled
  | cons event rest ih =>
      have next : chronicle.doneBy task ++ [event] <+: Job.course task job :=
        ⟨rest, by rw [← course]; simp⟩
      have further := chronicled.did running next
      have done := Chronicle.doneBy_append_did task chronicle [event]
      rw [List.map_singleton] at done
      have whole := ih further (by rw [done, ← course]; simp)
      simpa using whole

/-- A running task can come to its end, whatever the others do. -/
theorem Chronicled.conclude {job : Job} (chronicled : Chronicled launcher chronicle table)
    (running : (task, job) ∈ table.running) :
    ∃ rest, chronicle.doneBy task ++ rest = Job.course task job ∧
      Chronicled launcher (chronicle ++ rest.map (.did task) ++ [.moved (.ended task)])
        (table.finish task) := by
  obtain ⟨words, started, ⟨rest, course⟩, own⟩ :=
    (stage_of_chronicled chronicled task).of_running chronicled.reached.accounted running
  refine ⟨rest, course, (chronicled.proceed running course).ended running ?_⟩
  rw [Chronicle.doneBy_append_did, course]

/-- Waits hand back what is queued, one after the other. -/
theorem Chronicled.collect (chronicled : Chronicled launcher chronicle table)
    {first rest : List TaskId} (queue : table.completed = first ++ rest) :
    ∃ later, Chronicled launcher (chronicle ++ first.map fun task => .moved (.collected task)) later ∧
      later.completed = rest := by
  induction first generalizing chronicle table with
  | nil => exact ⟨table, by simpa using chronicled, queue⟩
  | cons task others ih =>
      have waited : waitAny table = ⟨.ok task, _, _⟩ := waitAny_eq_ok_iff.2 ⟨_, queue, rfl, rfl⟩
      obtain ⟨later, further, left⟩ := ih (chronicled.collected waited) rfl
      exact ⟨later, by simpa using further, left⟩

end Courses

section Requests

/-- Requests that run their tasks to the end are such courses of things. -/
theorem Chronicled.dispatch (chronicled : Chronicled launcher chronicle table) (words : List String) :
    ∃ more, Chronicled launcher (chronicle ++ more) (dispatch launcher words table).state := by
  have step := dispatched launcher words table
  generalize TaskTable.dispatch launcher words table = outcome at step
  cases step with
  | failed reply =>
      refine ⟨[], ?_⟩
      rwa [List.append_nil]
  | refused reply =>
      exact ⟨_, chronicled.refused (enroll_eq_none_iff.2 ⟨_, reply, rfl, rfl⟩)⟩
  | held reply gated =>
      exact ⟨_, chronicled.accepted (enroll_eq_some_iff.2 ⟨_, reply, rfl, rfl, rfl⟩)⟩
  | @done job reply free =>
      have accepted := chronicled.accepted (enroll_eq_some_iff.2 ⟨job, reply, rfl, rfl, rfl⟩)
      have running : (table.nextTask, job) ∈ (table.accept words job).running :=
        List.mem_append_right _ List.mem_cons_self
      obtain ⟨rest, _, ended⟩ := accepted.conclude running
      refine ⟨[.moved (.accepted table.nextTask words)] ++ rest.map (.did table.nextTask) ++
        [.moved (.ended table.nextTask)], ?_⟩
      simpa using ended

/-- Tasks that a gate held are such courses of things too. -/
theorem Chronicled.release (chronicled : Chronicled launcher chronicle table) (gate : String) :
    ∃ more, Chronicled launcher (chronicle ++ more) (release gate table).state := by
  have finishing (held : List (TaskId × Job)) (nodup : (held.map (·.1)).Nodup)
      (chronicle : Chronicle) (table : TaskTable) (chronicled : Chronicled launcher chronicle table)
      (running : ∀ entry ∈ held, entry ∈ table.running) :
      ∃ more, Chronicled launcher (chronicle ++ more)
        (held.foldl (fun table entry => table.finish entry.1) table) := by
    induction held generalizing chronicle table with
    | nil => exact ⟨[], by simpa using chronicled⟩
    | cons entry others ih =>
        rw [List.map_cons, List.nodup_cons] at nodup
        obtain ⟨rest, _, ended⟩ := chronicled.conclude (running entry List.mem_cons_self)
        have still : ∀ other ∈ others, other ∈ (table.finish entry.1).running := by
          intro other inside
          have apart : other.1 ≠ entry.1 := fun same =>
            nodup.1 (same ▸ List.mem_map_of_mem (f := (·.1)) inside)
          exact List.mem_filter.2 ⟨running other (List.mem_cons_of_mem _ inside), by simpa using apart⟩
        obtain ⟨more, further⟩ := ih nodup.2 _ _ ended still
        rw [List.append_assoc, List.append_assoc] at further
        exact ⟨_, further⟩
  have nodup := chronicled.reached.accounted.running_nodup
  exact finishing _ (nodup.sublist (List.filter_sublist.map _)) chronicle table chronicled
    fun entry inside => (List.mem_filter.1 inside).1

end Requests

/-- How a task is carried through, from its request to its end. -/
structure Completes (launcher : Launcher) (chronicle : Chronicle) (table : TaskTable)
    (task : TaskId) (words : List String) (job : Job) : Prop where
  /-- It does its course in order, then ends, and then is handed back, each at most once. -/
  lifetime : chronicle.own task <+: Chronicle.lifetime task words job
  once : chronicle.past.ended.count task ≤ 1
  /-- As long as it did not end it runs, and it can always do the rest of its course and end, which
  puts its number into the queue and touches nothing of any other task. -/
  ends : task ∉ chronicle.past.ended → (task, job) ∈ table.running ∧
    ∃ rest, chronicle.doneBy task ++ rest = Job.course task job ∧
      Chronicled launcher (chronicle ++ rest.map (.did task) ++ [.moved (.ended task)])
        { accepted := table.accepted
          outstanding := table.outstanding
          completed := table.completed ++ [task]
          running := table.running.filter (·.1 ≠ task) }
  /-- Once it ended it has done all of its course. -/
  whole : task ∈ chronicle.past.ended → chronicle.doneBy task = Job.course task job
  /-- Waits hand it back after the tasks before it in the queue, and a wait for it ends. -/
  delivered : task ∈ chronicle.past.ended → task ∉ chronicle.past.collected →
    ∃ others rest later, table.completed = others ++ task :: rest ∧
      Chronicled launcher
        (chronicle ++ (others ++ [task]).map fun task => .moved (.collected task)) later ∧
      later.completed = rest ∧
      ∃ later events, Sequencer.waitFor (executor launcher) task table = ⟨.ok (), later, events⟩

/-- Whatever else happens, every task that was accepted is carried through. -/
theorem completes_of_chronicled (chronicled : Chronicled launcher chronicle table)
    {words : List String} (accepted : (task, words) ∈ chronicle.past.accepted) :
    ∃ job, launcher.reply words = .ok (.started job) ∧
      Completes launcher chronicle table task words job := by
  have accounted := chronicled.reached.accounted
  have once := List.nodup_iff_count_le_one.1 accounted.once task
  obtain ⟨job, started, ⟨running, part, own⟩ | ⟨ended, all, own⟩⟩ := chronicled.exists_job accepted
  · have fresh := (accounted.mem_running_iff.1 (List.mem_map_of_mem running)).2
    refine ⟨job, started, ?lifetime, once, fun _ => ⟨running, chronicled.conclude running⟩,
      fun ended => absurd ended fresh, fun ended => absurd ended fresh⟩
    obtain ⟨rest, course⟩ := part
    rw [own, Chronicle.lifetime, ← course]
    simp
  · refine ⟨job, started, own, once, fun fresh => absurd ended fresh, fun _ => all, ?delivered⟩
    intro _ left
    obtain ⟨others, rest, queue⟩ :=
      List.append_of_mem (accounted.mem_completed_iff.2 ⟨ended, left⟩)
    have queue' : table.completed = (others ++ [task]) ++ rest := by simp [queue]
    obtain ⟨later, further, left'⟩ := chronicled.collect queue'
    exact ⟨others, rest, later, queue, further, left', exists_waitFor (queue ▸ by simp)⟩

end TaskTable

end CommandShell
