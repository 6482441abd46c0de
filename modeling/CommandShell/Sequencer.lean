import CommandShell.Command
import CommandShell.Executor

/-!
Running the commands of a line. After a sequential command the sequencer takes completions until the
command's own comes back; completions of other tasks are taken and dropped.
-/

namespace CommandShell

/-- A command and the number of its task; no number means that it did not start. -/
structure Launch where
  command : Command
  task? : Option TaskId
  deriving DecidableEq, Repr

/-- A launch without a task failed. -/
def Launch.failed (launch : Launch) : Bool := launch.task?.isNone

/-- What is recorded and reported of a launch. -/
def Launch.report (launch : Launch) : List Event :=
  match launch.task? with
  | none =>
      [.log .main (.commandFailed launch.command.text), .failed launch.command.text]
  | some task =>
      [.log .main (.commandStarted task launch.command.concurrent launch.command.text),
        .started launch.command.text task]

namespace Sequencer

variable {State : Type}

/-- Start one command and report whether it started. -/
def start (executor : Executor State) (command : Command) : Step State Launch := do
  let task? ← executor.dispatch command.words
  Step.tell (Launch.report ⟨command, task?⟩)
  return ⟨command, task?⟩

theorem start_eq_ok_iff {executor : Executor State} {command : Command} {state later : State}
    {launch : Launch} {events : List Event} :
    start executor command state = ⟨.ok launch, later, events⟩ ↔
      ∃ asked, executor.dispatch command.words state = ⟨.ok launch.task?, later, asked⟩ ∧
        launch.command = command ∧ events = asked ++ launch.report := by
  unfold start
  rw [Step.bind_eq_ok_iff]
  constructor
  · rintro ⟨task?, middle, asked, told, dispatched, reported, rfl⟩
    cases reported
    exact ⟨asked, dispatched, rfl, by simp⟩
  · rintro ⟨asked, dispatched, rfl, rfl⟩
    exact ⟨launch.task?, later, asked, launch.report, dispatched, by
      rw [Step.bind_ok (Step.tell_apply _ _)]
      simp [Outcome.after], rfl⟩

/-- Take completions until the pending one comes back. -/
def waitFor (executor : Executor State) (pending : TaskId) (state : State) : Outcome State Unit :=
  match h : executor.waitAny state with
  | ⟨.error failure, later, events⟩ => ⟨.error failure, later, events⟩
  | ⟨.ok task, later, events⟩ =>
      if task = pending then ⟨.ok (), later, events ++ [.log .main (.waitMatched pending)]⟩
      else (waitFor executor pending later).after
        (events ++ [.log .main (.waitDiscarded pending task)])
termination_by executor.pending state
decreasing_by exact executor.pending_lt h

section WaitFor

variable {executor : Executor State} {pending : TaskId} {state later : State} {events : List Event}

theorem waitFor_error {failure : Failure}
    (h : executor.waitAny state = ⟨.error failure, later, events⟩) :
    waitFor executor pending state = ⟨.error failure, later, events⟩ := by
  rw [waitFor]
  split <;> simp_all

theorem waitFor_matched (h : executor.waitAny state = ⟨.ok pending, later, events⟩) :
    waitFor executor pending state =
      ⟨.ok (), later, events ++ [.log .main (.waitMatched pending)]⟩ := by
  rw [waitFor]
  split <;> simp_all

theorem waitFor_discarded {task : TaskId} (different : task ≠ pending)
    (h : executor.waitAny state = ⟨.ok task, later, events⟩) :
    waitFor executor pending state =
      (waitFor executor pending later).after
        (events ++ [.log .main (.waitDiscarded pending task)]) := by
  rw [waitFor]
  split <;> simp_all

end WaitFor

/-- Only a sequential command that started is waited for. -/
def settle (executor : Executor State) (launch : Launch) : Step State Unit :=
  match launch.task? with
  | none => pure ()
  | some task => if launch.command.concurrent then pure () else waitFor executor task

/-- Run commands in order. -/
def run (executor : Executor State) : List Command → Step State (List Launch)
  | [] => pure []
  | command :: rest => do
      let launch ← start executor command
      settle executor launch
      let launches ← run executor rest
      return launch :: launches

section Run

variable {executor : Executor State} {state later : State} {launches : List Launch}
  {events : List Event}

theorem run_nil_eq_ok_iff :
    run executor [] state = ⟨.ok launches, later, events⟩ ↔
      launches = [] ∧ later = state ∧ events = [] := by
  rw [run, Step.pure_eq_ok_iff]
  simp only [eq_comm]

theorem run_cons_eq_ok_iff {command : Command} {rest : List Command} :
    run executor (command :: rest) state = ⟨.ok launches, later, events⟩ ↔
      ∃ launch ready waited others started awaited others',
        start executor command state = ⟨.ok launch, ready, started⟩ ∧
        settle executor launch ready = ⟨.ok (), waited, awaited⟩ ∧
        run executor rest waited = ⟨.ok others, later, others'⟩ ∧
        launches = launch :: others ∧ events = started ++ awaited ++ others' := by
  rw [run, Step.bind_eq_ok_iff]
  constructor
  · rintro ⟨launch, ready, started, _, starts, afterStart, rfl⟩
    obtain ⟨⟨⟩, waited, awaited, _, settles, afterWait, rfl⟩ := Step.bind_eq_ok_iff.1 afterStart
    obtain ⟨others, _, others', _, runs, answers, rfl⟩ := Step.bind_eq_ok_iff.1 afterWait
    obtain ⟨rfl, rfl, rfl⟩ := Step.pure_eq_ok_iff.1 answers
    exact ⟨launch, ready, waited, others, started, awaited, others', starts, settles, runs, rfl,
      by simp⟩
  · rintro ⟨launch, ready, waited, others, started, awaited, others', starts, settles, runs, rfl,
      rfl⟩
    refine ⟨launch, ready, started, awaited ++ others', starts, ?_, by simp⟩
    rw [Step.bind_ok settles, Step.bind_ok runs]
    simp [Outcome.after]

theorem run_append_eq_ok_iff {first second : List Command} :
    run executor (first ++ second) state = ⟨.ok launches, later, events⟩ ↔
      ∃ front middle back fore aft, run executor first state = ⟨.ok front, middle, fore⟩ ∧
        run executor second middle = ⟨.ok back, later, aft⟩ ∧
        launches = front ++ back ∧ events = fore ++ aft := by
  induction first generalizing state launches events with
  | nil => simp [run_nil_eq_ok_iff, and_assoc]
  | cons command rest ih =>
      simp only [List.cons_append, run_cons_eq_ok_iff, ih]
      constructor
      · rintro ⟨launch, ready, waited, _, started, awaited, _, starts, settles,
          ⟨front, middle, back, fore, aft, one, two, rfl, rfl⟩, rfl, rfl⟩
        exact ⟨launch :: front, middle, back, started ++ awaited ++ fore, aft,
          ⟨launch, ready, waited, front, started, awaited, fore, starts, settles, one, rfl, rfl⟩,
          two, by simp, by simp⟩
      · rintro ⟨_, middle, back, _, aft, ⟨launch, ready, waited, front, started, awaited, fore,
          starts, settles, one, rfl, rfl⟩, two, rfl, rfl⟩
        exact ⟨launch, ready, waited, front ++ back, started, awaited, fore ++ aft, starts, settles,
          ⟨front, middle, back, fore, aft, one, two, rfl, rfl⟩, by simp, by simp⟩

end Run

end Sequencer

end CommandShell
