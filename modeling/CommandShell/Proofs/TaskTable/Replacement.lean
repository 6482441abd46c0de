import CommandShell.Proofs.TaskTable.Chronicle

/-!
Jobs that are replaced by others. `exists_parallel` says that what the tasks of some words do, and how
they end, makes no difference to any other task.
-/

namespace CommandShell.TaskTable

variable {launcher launcher' : Launcher} {affected : List String → Prop} {chronicle : Chronicle}
  {table : TaskTable} {task : TaskId}

/-- Two launchers that differ in nothing but the jobs that affected words start. -/
structure Replaces (affected : List String → Prop) (launcher launcher' : Launcher) : Prop where
  same : ∀ words, ¬ affected words → launcher'.reply words = launcher.reply words
  starts : ∀ words, affected words → ∃ job job', launcher.reply words = .ok (.started job) ∧
    launcher'.reply words = .ok (.started job')

/-- The same happens to two tables, and the same to every task whose words are not affected. -/
structure Parallel (affected : List String → Prop) (chronicle chronicle' : Chronicle) : Prop where
  past : chronicle'.past = chronicle.past
  own : ∀ task words, (task, words) ∈ chronicle.past.accepted → ¬ affected words →
    chronicle'.own task = chronicle.own task

theorem ne_of_unaffected (accounted : Accounted chronicle.past table) {other : TaskId}
    {words words' : List String} (accepted : (task, words) ∈ chronicle.past.accepted)
    (affects : affected words) (accepted' : (other, words') ∈ chronicle.past.accepted)
    (unaffected : ¬ affected words') : task ≠ other := by
  rintro rfl
  exact unaffected (accounted.words_unique accepted accepted' ▸ affects)

namespace Parallel

variable {chronicle' : Chronicle} {table' : TaskTable}
  (parallel : Parallel affected chronicle chronicle')

include parallel

/-- What an affected task does on the one side changes nothing. -/
theorem append_left (accounted : Accounted chronicle.past table) {words : List String}
    (accepted : (task, words) ∈ chronicle.past.accepted) (affects : affected words) (event : Event) :
    Parallel affected (chronicle ++ [.did task event]) chronicle' := by
  constructor
  · rw [Chronicle.past_append_did, parallel.past]
  · intro other words' accepted' unaffected
    rw [Chronicle.past_append_did] at accepted'
    have different := ne_of_unaffected accounted accepted affects accepted' unaffected
    rw [Chronicle.own_append_did_other different]
    exact parallel.own other words' accepted' unaffected

/-- What an affected task does on the other side changes nothing. -/
theorem append_right (accounted : Accounted chronicle.past table) {words : List String}
    (accepted : (task, words) ∈ chronicle.past.accepted) (affects : affected words)
    (events : List Event) : Parallel affected chronicle (chronicle' ++ events.map (.did task)) := by
  induction events generalizing chronicle' with
  | nil => simpa using parallel
  | cons event rest ih =>
      have further : Parallel affected chronicle (chronicle' ++ [.did task event]) := by
        constructor
        · rw [Chronicle.past_append_did, parallel.past]
        · intro other words' accepted' unaffected
          have different := ne_of_unaffected accounted accepted affects accepted' unaffected
          rw [Chronicle.own_append_did_other different]
          exact parallel.own other words' accepted' unaffected
      simpa using ih further

theorem append_occasion (occasion : Occasion)
    (old : ∀ task words, (task, words) ∈ (Chronicle.past (chronicle ++ [occasion])).accepted →
      (task, words) ∈ chronicle.past.accepted ∨ chronicle.own task = [] ∧ chronicle'.own task = []) :
    Parallel affected (chronicle ++ [occasion]) (chronicle' ++ [occasion]) := by
  constructor
  · rw [Chronicle.past_append, Chronicle.past_append, parallel.past]
  · intro task words accepted unaffected
    rw [Chronicle.own_append, Chronicle.own_append]
    rcases old task words accepted with before | ⟨nothing, nothing'⟩
    · rw [parallel.own task words before unaffected]
    · rw [nothing, nothing']

/-- The same happens on both sides, and it accepts no task. -/
theorem append_same {occasion : Occasion}
    (declines : (Chronicle.past [occasion]).accepted = []) :
    Parallel affected (chronicle ++ [occasion]) (chronicle' ++ [occasion]) := by
  refine parallel.append_occasion occasion fun task words accepted => .inl ?_
  rwa [Chronicle.past_append, Past.accepted_append, declines, List.append_nil] at accepted

/-- A task whose words are not affected did the same. -/
theorem doneBy_eq {words : List String} (accepted : (task, words) ∈ chronicle.past.accepted)
    (unaffected : ¬ affected words) : chronicle'.doneBy task = chronicle.doneBy task := by
  rw [Chronicle.doneBy, Chronicle.doneBy, parallel.own task words accepted unaffected]

/-- Numbers, entries and the queue are the same. -/
theorem table_eq (accounted : Accounted chronicle.past table)
    (accounted' : Accounted chronicle'.past table') :
    table'.accepted = table.accepted ∧ table'.outstanding = table.outstanding ∧
      table'.completed = table.completed := by
  have queued := accounted'.queued
  rw [parallel.past, accounted.queued] at queued
  refine ⟨?_, ?_, (List.append_cancel_left queued).symm⟩
  · rw [accounted.accepted_length, accounted'.accepted_length, parallel.past]
  · rw [accounted.outstanding, accounted'.outstanding, parallel.past]

/-- A task that runs there runs here, with the same job if its words are not affected. -/
theorem exists_running (replaces : Replaces affected launcher launcher')
    (chronicled : Chronicled launcher chronicle table)
    (chronicled' : Chronicled launcher' chronicle' table') {job : Job}
    (running : (task, job) ∈ table.running) {words : List String}
    (accepted : (task, words) ∈ chronicle.past.accepted) :
    ∃ job', (task, job') ∈ table'.running ∧ (¬ affected words → job' = job) := by
  have fresh := (chronicled.reached.accounted.mem_running_iff.1 (List.mem_map_of_mem running)).2
  have accepted' : (task, words) ∈ chronicle'.past.accepted := parallel.past ▸ accepted
  obtain ⟨job', started', ⟨running', _⟩ | ⟨ended, _⟩⟩ := chronicled'.exists_job accepted'
  · refine ⟨job', running', fun unaffected => ?_⟩
    obtain ⟨words', accepted'', started⟩ := chronicled.words_of_running running
    obtain rfl := chronicled.reached.accounted.words_unique accepted accepted''
    rw [replaces.same words unaffected, started] at started'
    cases started'
    rfl
  · rw [parallel.past] at ended
    exact absurd ended fresh

end Parallel

/-- Whatever the jobs of affected words do and however they end, the same can happen to everything
else: the same requests are answered with the same numbers, the same tasks end and are handed back in
the same order, and every task whose words are not affected does the same. -/
theorem exists_parallel (replaces : Replaces affected launcher launcher')
    (chronicled : Chronicled launcher chronicle table) :
    ∃ chronicle' table', Chronicled launcher' chronicle' table' ∧
      Parallel affected chronicle chronicle' := by
  induction chronicled with
  | empty => exact ⟨[], .empty, .empty, rfl, fun _ _ _ _ => rfl⟩
  | @accepted chronicle table later words new events before h ih =>
      obtain ⟨chronicle', table', before', parallel⟩ := ih
      obtain ⟨job, started, rfl, rfl, _⟩ := enroll_eq_some_iff.1 h
      have accounted := before.reached.accounted
      have started' : ∃ job', launcher'.reply words = .ok (.started job') := by
        by_cases affects : affected words
        · obtain ⟨_, job', _, started'⟩ := replaces.starts words affects
          exact ⟨job', started'⟩
        · exact ⟨job, (replaces.same words affects).trans started⟩
      obtain ⟨job', started'⟩ := started'
      have next : table.nextTask = table'.nextTask := by
        rw [nextTask, nextTask, (parallel.table_eq accounted before'.reached.accounted).1]
      have h' := enroll_eq_some_iff.2 ⟨job', started', next, rfl, rfl⟩
      refine ⟨_, _, before'.accepted h', parallel.append_occasion _ fun task words' accepted => ?_⟩
      rw [Chronicle.past_append_moved, Past.accepted_append, List.mem_append] at accepted
      rcases accepted with old | new
      · exact .inl old
      · obtain ⟨rfl, rfl⟩ : task = table.nextTask ∧ words' = words := by simpa using new
        have unknown := accounted.nextTask_not_mem
        exact .inr ⟨(stage_of_chronicled before _).own_eq_nil accounted unknown,
          (stage_of_chronicled before' _).own_eq_nil before'.reached.accounted
            (parallel.past ▸ unknown)⟩
  | @refused chronicle table later words events before h ih =>
      obtain ⟨chronicle', table', before', parallel⟩ := ih
      obtain ⟨notice, refused, rfl, _⟩ := enroll_eq_none_iff.1 h
      have unaffected : ¬ affected words := by
        intro affects
        obtain ⟨job, _, started, _⟩ := replaces.starts words affects
        rw [started] at refused
        cases refused
      have refused' := (replaces.same words unaffected).trans refused
      have further := before'.refused (enroll_eq_none_iff.2 ⟨notice, refused', rfl, rfl⟩)
      exact ⟨_, table', further, parallel.append_same rfl⟩
  | @did chronicle table task job event before running next ih =>
      obtain ⟨chronicle', table', before', parallel⟩ := ih
      obtain ⟨words, accepted, started⟩ := before.words_of_running running
      by_cases affects : affected words
      · exact ⟨chronicle', table', before',
          parallel.append_left before.reached.accounted accepted affects event⟩
      · obtain ⟨job', running', same⟩ :=
          parallel.exists_running replaces before before' running accepted
        obtain rfl := same affects
        have next' : chronicle'.doneBy task ++ [event] <+: Job.course task job' := by
          rwa [parallel.doneBy_eq accepted affects]
        exact ⟨_, table', before'.did running' next', parallel.append_same rfl⟩
  | @ended chronicle table task job before running all ih =>
      obtain ⟨chronicle', table', before', parallel⟩ := ih
      obtain ⟨words, accepted, started⟩ := before.words_of_running running
      obtain ⟨job', running', same⟩ :=
        parallel.exists_running replaces before before' running accepted
      by_cases affects : affected words
      · obtain ⟨rest, _, further⟩ := before'.conclude running'
        have parallel' := parallel.append_right before.reached.accounted accepted affects rest
        exact ⟨_, _, further, parallel'.append_same rfl⟩
      · obtain rfl := same affects
        have all' : chronicle'.doneBy task = Job.course task job' := by
          rwa [parallel.doneBy_eq accepted affects]
        exact ⟨_, _, before'.ended running' all', parallel.append_same rfl⟩
  | @collected chronicle table later task events before h ih =>
      obtain ⟨chronicle', table', before', parallel⟩ := ih
      obtain ⟨rest, next, rfl, _⟩ := waitAny_eq_ok_iff.1 h
      obtain ⟨_, _, queue⟩ := parallel.table_eq before.reached.accounted before'.reached.accounted
      have waited := waitAny_eq_ok_iff.2 ⟨rest, queue.trans next, rfl, rfl⟩
      exact ⟨_, _, before'.collected waited, parallel.append_same rfl⟩

end CommandShell.TaskTable
