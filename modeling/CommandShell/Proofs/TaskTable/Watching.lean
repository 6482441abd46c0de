import CommandShell.Proofs.TaskTable.Timeline

/-!
The records of the ends of tasks. Whatever is run on a timeline, the watchers record ends in the order in
which they happen, each once, with the join of a job that the words of the task start. There is no record
of a join that ends by a failure which is meant for the whole shell.
-/

namespace CommandShell

/-- The task whose end is recorded. -/
def Event.ended? : Event → Option TaskId
  | .log (.watcher _) (.taskEnded task _) => some task
  | .log (.watcher _) (.joinFailed task _) => some task
  | _ => none

namespace TaskTable

variable {task : TaskId} {join : Except Failure (Option Int)} {event other : Event}

theorem ended?_of_mem_ended (inside : event ∈ ended task join) : event.ended? = some task := by
  rcases mem_ended inside with ⟨_, rfl⟩ | ⟨_, rfl⟩
  · rfl
  · rfl

/-- The end of a task is recorded once, or not at all. -/
theorem ended_cases (task : TaskId) (join : Except Failure (Option Int)) :
    ended task join = [] ∨ ∃ event, ended task join = [event] := by
  cases join with
  | ok status? => exact .inr ⟨_, rfl⟩
  | error failure =>
      rw [ended, Failure.records]
      split
      · exact .inl rfl
      · exact .inr ⟨_, rfl⟩

theorem eq_of_mem_ended (inside : event ∈ ended task join) (inside' : other ∈ ended task join) :
    event = other := by
  rcases ended_cases task join with none | ⟨record, one⟩
  · rw [none] at inside
    exact absurd inside List.not_mem_nil
  · rw [one, List.mem_singleton] at inside inside'
    rw [inside, inside']

theorem filterMap_ended (task : TaskId) (join : Except Failure (Option Int)) :
    ended task join = [] ∨ (ended task join).filterMap Event.ended? = [task] := by
  rcases ended_cases task join with none | ⟨record, one⟩
  · exact .inl none
  · have named : record.ended? = some task :=
      @ended?_of_mem_ended task join record (by rw [one]; exact List.mem_singleton_self _)
    exact .inr (by simp [one, named])

example : ended 1 (.error (.interrupted "")) = [] := rfl

end TaskTable

/-- The records of ends are those of tasks that ended, in order, and each is the record of a join that is
possible for the words of its task. Where there is none, a join is possible that leaves none. -/
structure Watched (joins : List String → Except Failure (Option Int) → Prop) (line : Timeline)
    (told : List Event) : Prop where
  recorded : (told.filterMap Event.ended?).Sublist line.past.ended
  running : ∀ entry ∈ line.table.running,
    ∃ words, (entry.1, words) ∈ line.past.accepted ∧ joins words entry.2.join
  joined : ∀ event ∈ told, ∀ task ∈ event.ended?,
    ∃ words join, (task, words) ∈ line.past.accepted ∧ joins words join ∧
      event ∈ TaskTable.ended task join
  unrecorded : ∀ task ∈ line.past.ended, task ∉ told.filterMap Event.ended? →
    ∃ words join, (task, words) ∈ line.past.accepted ∧ joins words join ∧
      TaskTable.ended task join = []

namespace Watched

open Timeline (executor)

variable {joins : List String → Except Failure (Option Int) → Prop} {moments : Nat → Moment}
  {line : Timeline} {told : List Event}

theorem start : Watched joins .start [] := by
  constructor <;> simp [Timeline.start, TaskTable.empty]

/-- A request adds to the history and no end. -/
theorem extend (watched : Watched joins line told) (more : Past) (noEnd : more.ended = []) :
    Watched joins { line with past := line.past ++ more } told := by
  obtain ⟨recorded, running, joined, unrecorded⟩ := watched
  constructor
  case recorded => simpa [noEnd] using recorded
  case running =>
    intro entry inside
    obtain ⟨words, known, possible⟩ := running entry inside
    exact ⟨words, by simp [known], possible⟩
  case joined =>
    intro event inside task ended
    obtain ⟨words, join, known, possible, record⟩ := joined event inside task ended
    exact ⟨words, join, by simp [known], possible, record⟩
  case unrecorded =>
    intro task ended missing
    obtain ⟨words, join, known, possible, none⟩ := unrecorded task (by simpa [noEnd] using ended) missing
    exact ⟨words, join, by simp [known], possible, none⟩

theorem tell (events : List Event) (others : ∀ event ∈ events, event.ended? = none) :
    (Step.tell events).Continues (Watched joins) := by
  rintro line told ⟨recorded, running, joined, unrecorded⟩
  have nothing : events.filterMap Event.ended? = [] := List.filterMap_eq_nil_iff.2 others
  refine ⟨by simpa [nothing] using recorded, running, fun event inside task ended => ?_,
    by simpa [nothing] using unrecorded⟩
  rcases List.mem_append.1 inside with before | after
  · exact joined event before task ended
  · rw [others event after] at ended
    cases ended

/-- A running task ends, and its watcher records it or not. -/
theorem finish (watched : Watched joins line told) {task : TaskId} {job : Job}
    (runs : (task, job) ∈ line.table.running) :
    Watched joins { line with table := line.table.finish task, past := line.past ++ [.ended task] }
      (told ++ TaskTable.ended task job.join) := by
  obtain ⟨recorded, running, joined, unrecorded⟩ := watched
  obtain ⟨words, known, possible⟩ := running _ runs
  constructor
  case recorded =>
    have last : ((TaskTable.ended task job.join).filterMap Event.ended?).Sublist [task] := by
      rcases TaskTable.filterMap_ended task job.join with none | one
      · rw [none]
        exact List.nil_sublist _
      · rw [one]
    simpa using recorded.append last
  case running =>
    intro entry inside
    obtain ⟨words, known, possible⟩ := running entry (List.mem_filter.1 inside).1
    exact ⟨words, by simp [known], possible⟩
  case joined =>
    intro event inside other ended
    rcases List.mem_append.1 inside with before | now
    · obtain ⟨words, join, known, possible, record⟩ := joined event before other ended
      exact ⟨words, join, by simp [known], possible, record⟩
    · have same : some task = some other :=
        (TaskTable.ended?_of_mem_ended now).symm.trans (Option.mem_def.1 ended)
      obtain rfl : task = other := Option.some.inj same
      exact ⟨words, job.join, by simp [known], possible, now⟩
  case unrecorded =>
    intro other ended missing
    rw [List.filterMap_append, List.mem_append, not_or] at missing
    obtain ⟨before, now⟩ := missing
    have either : other ∈ line.past.ended ∨ other = task := by simpa using ended
    rcases either with old | rfl
    · obtain ⟨words, join, known, possible, none⟩ := unrecorded other old before
      exact ⟨words, join, by simp [known], possible, none⟩
    · rcases TaskTable.filterMap_ended other job.join with none | one
      · exact ⟨words, job.join, by simp [known], possible, none⟩
      · exact absurd (by simp [one]) now

theorem passing : (Timeline.passing moments).Continues (Watched joins) := by
  apply Timeline.passing_continues
  · intro line told clock watched
    exact ⟨watched.recorded, watched.running, watched.joined, watched.unrecorded⟩
  · exact fun line told task job runs watched => watched.finish runs

/-- A request is recorded on the shell's own thread, and a new job joins as its words allow. -/
theorem enrolling {launcher : Launcher} {words : List String}
    (possible : ∀ job, launcher.reply words = .ok (.started job) → joins words job.join) :
    (Timeline.enrolling launcher words).Continues (Watched joins) := by
  intro line told watched
  rcases enrolled : TaskTable.enroll launcher words line.table with ⟨failure | _ | task, table, events⟩
  · obtain ⟨_, rfl, rfl⟩ := TaskTable.enroll_eq_error_iff.1 enrolled
    simpa [Timeline.enrolling, enrolled, Timeline.requested] using watched
  · obtain ⟨notice, _, rfl, rfl⟩ := TaskTable.enroll_eq_none_iff.1 enrolled
    have told := tell [.log .main notice] (by simp [Event.ended?]) line told watched
    simpa [Timeline.enrolling, enrolled, Timeline.requested] using
      told.extend [.refused words] (by simp)
  · obtain ⟨job, started, rfl, rfl, rfl⟩ := TaskTable.enroll_eq_some_iff.1 enrolled
    have told := tell [.log .main (.taskStarted line.table.nextTask words)] (by simp [Event.ended?])
      line told watched
    obtain ⟨recorded, running, joined, unrecorded⟩ :=
      told.extend [.accepted line.table.nextTask words] (by simp)
    simp only [Timeline.enrolling, enrolled, Timeline.requested]
    refine ⟨recorded, fun entry inside => ?_, joined, unrecorded⟩
    rcases List.mem_append.1 inside with old | new
    · exact running entry old
    · obtain rfl := List.mem_singleton.1 new
      exact ⟨words, by simp, possible job started⟩

theorem collecting : Timeline.collecting.Continues (Watched joins) := by
  intro line told watched
  rcases waited : TaskTable.waitAny line.table with ⟨failure | task, table, events⟩
  · obtain ⟨_, _, rfl, rfl⟩ := TaskTable.waitAny_eq_error_iff.1 waited
    simpa [Timeline.collecting, waited, Timeline.awaited] using watched
  · obtain ⟨rest, _, rfl, record⟩ := TaskTable.waitAny_eq_ok_iff.1 waited
    have told := tell events (by simp [record, Event.ended?]) line told watched
    obtain ⟨recorded, running, joined, unrecorded⟩ := told.extend [.collected task] (by simp)
    simp only [Timeline.collecting, waited, Timeline.awaited]
    exact ⟨recorded, running, joined, unrecorded⟩

theorem waitAny (moments : Nat → Moment) : (executor moments).waitAny.Continues (Watched joins) := by
  rw [Timeline.waitAny_eq]
  exact (tell _ (by simp [Event.ended?])).bind fun _ => passing.bind fun _ => collecting

/-- Whatever is run, the ends of tasks are watched. -/
theorem run (possible : ∀ clock words job,
      (moments clock).launcher.reply words = .ok (.started job) → joins words job.join)
    (commands : List Command) :
    (Sequencer.run (executor moments) commands).Continues (Watched joins) := by
  have remarks : Sequencer.WaitRemarks (Watched joins) :=
    ⟨fun _ => tell _ (by simp [Event.ended?]), fun _ _ => tell _ (by simp [Event.ended?])⟩
  refine Sequencer.run_continues remarks (fun command _ => ?_) (waitAny moments)
  have dispatches : ((executor moments).dispatch command.words).Continues (Watched joins) := by
    intro line told watched
    rw [Timeline.dispatch_eq]
    exact ((tell _ (by simp [Event.ended?])).bind fun _ => passing.bind fun _ =>
      enrolling (possible line.clock command.words)) line told watched
  have reports (launch : Launch) : (Step.tell launch.report).Continues (Watched joins) := by
    apply tell
    rcases launch with ⟨command, _ | task⟩ <;> simp [Launch.report, Event.ended?]
  exact dispatches.bind fun task? => (reports ⟨command, task?⟩).bind fun _ => Step.continues_pure _

end Watched

end CommandShell
