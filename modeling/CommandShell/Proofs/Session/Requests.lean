import CommandShell.Proofs.Session.Loop
import CommandShell.Proofs.TaskTable.Emission

/-!
Requests to a shell in any order: whole sessions, single lines, and what else can be asked of its
executor. `performAll_emits` says that whatever becomes of them, they emit what reading emits, what
is said of the requests, and what jobs of the launcher do.
-/

namespace CommandShell

namespace Step

variable {State Answer : Type} {property : State → Prop} {emitted : Event → Prop}

/-- A step that keeps a property of states and emits only events with another one. -/
theorem continues_of_keeps {step : Step State Answer} (keeps : step.Keeps property)
    (emits : ∀ state, property state → ∀ event ∈ (step state).events, emitted event) :
    step.Continues fun state told => property state ∧ ∀ event ∈ told, emitted event := by
  rintro state told ⟨holds, before⟩
  refine ⟨keeps state holds, fun event inside => ?_⟩
  rcases List.mem_append.1 inside with earlier | now
  · exact before event earlier
  · exact emits state holds event now

end Step

namespace TaskTable

variable {launcher : Launcher} {table : TaskTable} {property : Event → Prop}

/-- Every job that runs was started by a launcher. -/
def Held (launcher : Launcher) (table : TaskTable) : Prop :=
  ∀ entry ∈ table.running, ∃ words, launcher.reply words = .ok (.started entry.2)

theorem held_empty (launcher : Launcher) : Held launcher empty :=
  fun _ inside => absurd inside List.not_mem_nil

theorem Held.accept {words : List String} {job : Job} (held : Held launcher table)
    (started : launcher.reply words = .ok (.started job)) : Held launcher (table.accept words job) := by
  intro entry inside
  rcases List.mem_append.1 inside with old | new
  · exact held entry old
  · rw [List.mem_singleton.1 new]
    exact ⟨words, started⟩

theorem Held.finish (held : Held launcher table) (task : TaskId) :
    Held launcher (table.finish task) :=
  fun entry inside => held entry (List.mem_filter.1 inside).1

theorem dispatch_held (launcher : Launcher) (words : List String) :
    (dispatch launcher words).Keeps (Held launcher) := by
  intro table held
  have step := dispatched launcher words table
  generalize dispatch launcher words table = outcome at step
  cases step with
  | failed reply => exact held
  | refused reply => exact held
  | held reply gated => exact held.accept reply
  | done reply free => exact (held.accept reply).finish table.nextTask

theorem waitAny_held (launcher : Launcher) : waitAny.Keeps (Held launcher) := by
  intro table held
  rcases next : table.completed with _ | ⟨task, rest⟩
  · simpa [waitAny, next] using held
  · simpa [waitAny, next, Held] using held

theorem drain_held (launcher : Launcher) : Step.Keeps (Held launcher) drain := by
  have waits : (executor launcher).waitAny.Keeps (Held launcher) := waitAny_held launcher
  rw [drain_eq launcher]
  exact Step.keeps_iff_continues.2 (Executor.drain_continues (Step.keeps_iff_continues.1 waits))

theorem release_held (launcher : Launcher) (gate : String) :
    (release gate).Keeps (Held launcher) := by
  intro table held
  have finishing (tasks : List (TaskId × Job)) (table : TaskTable) (held : Held launcher table) :
      Held launcher (tasks.foldl (fun table entry => table.finish entry.1) table) := by
    induction tasks generalizing table with
    | nil => exact held
    | cons entry rest ih => exact ih _ (held.finish entry.1)
  exact finishing _ table held

/-- What happens at a gate is the course of jobs that a launcher started. -/
theorem release_emits (held : Held launcher table)
    (course : ∀ words job, launcher.reply words = .ok (.started job) →
      ∀ task, ∀ event ∈ Job.course task job, property event) (gate : String) :
    ∀ event ∈ (release gate table).events, property event := by
  intro event inside
  obtain ⟨entry, waiting, during⟩ := List.mem_flatMap.1 inside
  obtain ⟨words, started⟩ := held entry (List.mem_filter.1 waiting).1
  exact course words entry.2 started entry.1 event during

end TaskTable

namespace Session

variable {Lines Tasks Answer : Type} {source : LineSource Lines} {executor : Executor Tasks}

/-- A step of the executor between the lines of a session. -/
def onTasks (step : Step Tasks Answer) : Step (Session Lines Tasks) Answer := fun session =>
  let outcome := step session.tasks
  ⟨outcome.answer, { session with tasks := outcome.state }, outcome.events⟩

section Keeps

variable {property : Tasks → Prop}

theorem runLine_keeps {line : String}
    (runs : (Sequencer.run executor (Command.ofLine line)).Keeps property) :
    (runLine executor line).Keeps fun session : Session Lines Tasks => property session.tasks := by
  intro session holds
  have left := runs session.tasks holds
  unfold runLine
  split
  · rename_i ran
    rwa [ran] at left
  · rename_i ran
    rwa [ran] at left

/-- What every run of a line keeps, a loop keeps. -/
theorem loop_keeps (runs : ∀ commands, (Sequencer.run executor commands).Keeps property) :
    Step.Keeps (fun session : Session Lines Tasks => property session.tasks)
      (loop source executor) := by
  intro session holds
  induction session using loop_induction source executor with
  | unread session failure lines events reading => rwa [loop_unread reading]
  | ended session line? lines events ends reading => rwa [loop_ended ends reading]
  | failed session line lines events failure later more stays reading running =>
      have left := runLine_keeps (runs (Command.ofLine line)) { session with lines := lines } holds
      rw [running] at left
      rwa [loop_failed stays reading running]
  | continued session line lines events launches later more stays reading running ih =>
      have left := runLine_keeps (runs (Command.ofLine line)) { session with lines := lines } holds
      rw [running] at left
      rw [loop_continued stays reading running]
      exact ih left

end Keeps

end Session

/-- What can be asked of a shell. -/
inductive Request where
  | session
  | line (text : String)
  | dispatch (words : List String)
  | wait
  | release (gate : String)
  | drain
  deriving DecidableEq, Repr

namespace Request

open Session (onTasks)

variable {Lines : Type} {source : LineSource Lines} {launcher : Launcher}

/-- Meet a request. -/
def perform (source : LineSource Lines) (launcher : Launcher) :
    Request → Step (Session Lines TaskTable) Unit
  | session => Session.run source (TaskTable.executor launcher)
  | line text => Session.runLine (TaskTable.executor launcher) text >>= fun _ => pure ()
  | dispatch words => onTasks (TaskTable.dispatch launcher words) >>= fun _ => pure ()
  | wait => onTasks TaskTable.waitAny >>= fun _ => pure ()
  | release gate => onTasks (TaskTable.release gate) >>= fun _ => pure ()
  | drain => onTasks TaskTable.drain

/-- Requests are met one after the other, whatever becomes of each. -/
def performAll (source : LineSource Lines) (launcher : Launcher) :
    List Request → Step (Session Lines TaskTable) Unit
  | [] => pure ()
  | request :: rest => fun session =>
      let outcome := request.perform source launcher session
      (performAll source launcher rest outcome.state).after outcome.events

/-- All that is said while requests are met has a property. -/
structure Speaks (source : LineSource Lines) (launcher : Launcher) (property : Event → Prop) :
    Prop where
  reads : ∀ prompt, (source.read prompt).Emits property
  opens : property (.log .main .sessionStarted)
  closes : ∀ line?, ∀ event ∈ Session.farewell line?, property event
  remarks : Sequencer.Remarks property
  refused : ∀ words notice, launcher.reply words = .ok (.refused notice) →
    property (.log .main notice)
  started : ∀ task words, property (.log .main (.taskStarted task words))
  course : ∀ words job, launcher.reply words = .ok (.started job) →
    ∀ task, ∀ event ∈ TaskTable.Job.course task job, property event
  collected : ∀ task program, property (.log .main (.taskCollected task program))

section Speaks

variable {property : Event → Prop}

theorem Speaks.run_emits (speaks : Speaks source launcher property) (commands : List Command) :
    (Sequencer.run (TaskTable.executor launcher) commands).Emits property :=
  Sequencer.run_emits speaks.remarks
    (fun command _ => TaskTable.dispatch_emits (speaks.refused command.words)
      (fun task => speaks.started task command.words) (speaks.course command.words))
    (TaskTable.waitAny_emits speaks.collected)

theorem Speaks.session_emits (speaks : Speaks source launcher property) :
    (Session.run source (TaskTable.executor launcher)).Emits property := by
  intro session event inside
  rcases List.mem_cons.1 inside with rfl | inside
  · exact speaks.opens
  · exact Session.loop_emits speaks.reads (fun line => Session.runLine_emits (speaks.run_emits _))
      speaks.closes session event inside

theorem run_held (commands : List Command) :
    (Sequencer.run (TaskTable.executor launcher) commands).Keeps (TaskTable.Held launcher) :=
  Sequencer.run_keeps (TaskTable.dispatch_held launcher) (TaskTable.waitAny_held launcher) commands

/-- No request makes something run that the launcher did not start, or emits something else. -/
theorem perform_continues (speaks : Speaks source launcher property) (request : Request) :
    (request.perform source launcher).Continues fun session told =>
      TaskTable.Held launcher session.tasks ∧ ∀ event ∈ told, property event := by
  have answerless {Answer : Type} {step : Step (Session Lines TaskTable) Answer}
      (keeps : step.Keeps fun session => TaskTable.Held launcher session.tasks)
      (emits : ∀ session, TaskTable.Held launcher session.tasks →
        ∀ event ∈ (step session).events, property event) :
      (step >>= fun _ => pure ()).Continues fun session told =>
        TaskTable.Held launcher session.tasks ∧ ∀ event ∈ told, property event :=
    (Step.continues_of_keeps keeps emits).bind fun _ => Step.continues_pure ()
  cases request with
  | session =>
      refine Step.continues_of_keeps ?_ fun state _ => speaks.session_emits state
      exact Session.loop_keeps run_held
  | line text =>
      exact answerless (Session.runLine_keeps (run_held _))
        fun state _ => Session.runLine_emits (speaks.run_emits _) state
  | dispatch words =>
      refine answerless (fun state held => TaskTable.dispatch_held launcher words _ held) ?_
      exact fun state _ => TaskTable.dispatch_emits (speaks.refused words)
        (fun task => speaks.started task words) (speaks.course words) state.tasks
  | wait =>
      refine answerless (fun state held => TaskTable.waitAny_held launcher _ held) ?_
      exact fun state _ => TaskTable.waitAny_emits speaks.collected state.tasks
  | release gate =>
      refine answerless (fun state held => TaskTable.release_held launcher gate _ held) ?_
      exact fun state held => TaskTable.release_emits held speaks.course gate
  | drain =>
      refine Step.continues_of_keeps (fun state held => TaskTable.drain_held launcher _ held) ?_
      exact fun state _ => TaskTable.drain_emits (TaskTable.waitAny_emits speaks.collected) state.tasks

theorem performAll_continues (speaks : Speaks source launcher property) (requests : List Request) :
    (performAll source launcher requests).Continues fun session told =>
      TaskTable.Held launcher session.tasks ∧ ∀ event ∈ told, property event := by
  induction requests with
  | nil => exact Step.continues_pure ()
  | cons request rest ih =>
      intro session told holds
      have left := perform_continues speaks request session told holds
      have later := ih _ _ left
      rwa [List.append_assoc] at later

/-- Whatever becomes of requests to a new shell, they emit nothing else. -/
theorem performAll_emits (speaks : Speaks source launcher property) (counter : Int) (lines : Lines)
    (requests : List Request) :
    ∀ event ∈ (performAll source launcher requests ⟨counter, lines, .empty⟩).events,
      property event := by
  have nothing : ∀ event ∈ ([] : List Event), property event :=
    fun _ inside => absurd inside List.not_mem_nil
  exact (performAll_continues speaks requests ⟨counter, lines, .empty⟩ []
    ⟨TaskTable.held_empty launcher, nothing⟩).2

end Speaks

end Request

end CommandShell
