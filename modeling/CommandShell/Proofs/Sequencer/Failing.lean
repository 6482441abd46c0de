import CommandShell.Proofs.Sequencer.Invariant

/-!
Runs that fail. `run_eq_error_iff` says that a run fails at the first command for which a request
fails, after the commands before it were run to their end, and `events_prefix_run` that every run
begins as it does until then.
-/

namespace CommandShell

/-- A sequence of two steps begins with what happens in the first. -/
theorem Step.events_prefix_bind {State Answer Next : Type} (step : Step State Answer)
    (next : Answer → Step State Next) (state : State) :
    (step state).events <+: ((step >>= next) state).events := by
  rcases outcome : step state with ⟨failure | answer, later, events⟩
  · have whole : (step >>= next) state = ⟨.error failure, later, events⟩ := Step.bind_error outcome
    exact ⟨[], (List.append_nil _).trans (congrArg Outcome.events whole.symm)⟩
  · rw [Step.bind_ok outcome]
    exact List.prefix_append _ _

namespace Sequencer

variable {State : Type} {executor : Executor State} {state later : State}
  {commands : List Command} {command : Command} {failure : Failure} {events : List Event}

theorem settle_sequential {launch : Launch} {task : TaskId} (started : launch.task? = some task)
    (sequential : launch.command.concurrent = false) :
    settle executor launch = waitFor executor task := by
  simp only [settle, started, sequential, Bool.false_eq_true, ↓reduceIte]
  rfl

/-- Only the wait for a sequential command that started can fail. -/
theorem exists_of_settle_error {launch : Launch} {failure : Failure}
    (settles : settle executor launch state = ⟨.error failure, later, events⟩) :
    ∃ task, launch.task? = some task ∧ launch.command.concurrent = false := by
  rcases started : launch.task? with _ | task
  · simp only [settle, started, Step.pure_apply] at settles
    cases settles
  · by_cases beside : launch.command.concurrent = true
    · simp only [settle, started, beside, ↓reduceIte, Step.pure_apply] at settles
      cases settles
    · exact ⟨task, rfl, by simpa using beside⟩

/-- After the first command came to its end a run is the run of the others. -/
theorem run_cons_settled {command : Command} {rest : List Command} {launch : Launch}
    {ready waited : State} {started awaited : List Event}
    (starts : start executor command state = ⟨.ok launch, ready, started⟩)
    (settles : settle executor launch ready = ⟨.ok (), waited, awaited⟩) :
    run executor (command :: rest) state =
      ⟨(run executor rest waited).answer.map (launch :: ·), (run executor rest waited).state,
        started ++ awaited ++ (run executor rest waited).events⟩ := by
  rw [run, Step.bind_ok starts, Step.bind_ok settles]
  rcases runs : run executor rest waited with ⟨failure | launches, last, more⟩
  · simp [Step.bind_error runs, Outcome.after, Except.map]
  · simp [Step.bind_ok runs, Outcome.after, Except.map]

/-- A run ends with the first command that cannot be dispatched. -/
theorem run_cons_undispatched {command : Command} {rest : List Command} {failure : Failure}
    {ready : State} {asked : List Event}
    (fails : executor.dispatch command.words state = ⟨.error failure, ready, asked⟩) :
    run executor (command :: rest) state = ⟨.error failure, ready, asked⟩ := by
  have starts : start executor command state = ⟨.error failure, ready, asked⟩ :=
    Step.bind_error fails
  rw [run, Step.bind_error starts]

/-- A run ends with the first wait that fails. -/
theorem run_cons_blocked {command : Command} {rest : List Command} {launch : Launch}
    {failure : Failure} {ready waited : State} {started awaited : List Event}
    (starts : start executor command state = ⟨.ok launch, ready, started⟩)
    (settles : settle executor launch ready = ⟨.error failure, waited, awaited⟩) :
    run executor (command :: rest) state = ⟨.error failure, waited, started ++ awaited⟩ := by
  rw [run, Step.bind_ok starts, Step.bind_error settles]
  rfl

/-- Start a command and wait for it if it is to be waited for. -/
def attend (executor : Executor State) (command : Command) : Step State Unit := do
  let launch ← start executor command
  settle executor launch

/-- A command that is attended to fails at its start or at its wait. -/
theorem attend_eq_error_iff :
    attend executor command state = ⟨.error failure, later, events⟩ ↔
      executor.dispatch command.words state = ⟨.error failure, later, events⟩ ∨
        ∃ launch ready started awaited,
          start executor command state = ⟨.ok launch, ready, started⟩ ∧
          settle executor launch ready = ⟨.error failure, later, awaited⟩ ∧
          events = started ++ awaited := by
  rcases asked : executor.dispatch command.words state with ⟨refused | task?, ready, told⟩
  · have starts : start executor command state = ⟨.error refused, ready, told⟩ :=
      Step.bind_error asked
    simp [attend, Step.bind_error starts, starts]
  · have starts : start executor command state =
        ⟨.ok ⟨command, task?⟩, ready, told ++ Launch.report ⟨command, task?⟩⟩ :=
      start_eq_ok_iff.2 ⟨told, asked, rfl, rfl⟩
    rw [attend, Step.bind_ok starts, Outcome.after_eq_iff]
    constructor
    · rintro ⟨awaited, settles, rfl⟩
      exact .inr ⟨_, ready, _, awaited, starts, settles, rfl⟩
    · rintro (dispatched | ⟨launch, _, _, awaited, starts', settles, rfl⟩)
      · cases dispatched
      · cases starts.symm.trans starts'
        exact ⟨awaited, settles, rfl⟩

theorem run_cons_unattended {rest : List Command}
    (fails : attend executor command state = ⟨.error failure, later, events⟩) :
    run executor (command :: rest) state = ⟨.error failure, later, events⟩ := by
  rcases attend_eq_error_iff.1 fails with undispatched | ⟨_, _, _, _, starts, settles, rfl⟩
  · exact run_cons_undispatched undispatched
  · exact run_cons_blocked starts settles

/-- A run fails at the first command that fails when it is attended to. The commands before it were
run to their end, and nothing happens after it. -/
theorem run_eq_error_iff :
    run executor commands state = ⟨.error failure, later, events⟩ ↔
      ∃ before command after launches middle fore told, commands = before ++ command :: after ∧
        run executor before state = ⟨.ok launches, middle, fore⟩ ∧
        attend executor command middle = ⟨.error failure, later, told⟩ ∧
        events = fore ++ told := by
  constructor
  · intro failed
    induction commands generalizing state events with
    | nil => cases failed
    | cons command rest ih =>
        rcases attended : attend executor command state with ⟨refused | ⟨⟩, waited, told⟩
        · rw [run_cons_unattended attended] at failed
          cases failed
          exact ⟨[], command, rest, [], state, [], events, rfl, rfl, attended, rfl⟩
        · obtain ⟨launch, ready, started, awaited, starts, settles, rfl⟩ :=
            Step.bind_eq_ok_iff.1 attended
          rw [run_cons_settled starts settles] at failed
          rcases runs : run executor rest waited with ⟨refused | launches, last, more⟩
          · rw [runs] at failed
            cases failed
            obtain ⟨before, next, after, launches, middle, fore, told, rfl, ran, fails, rfl⟩ :=
              ih runs
            refine ⟨command :: before, next, after, launch :: launches, middle, _, told, rfl,
              run_cons_eq_ok_iff.2 ⟨launch, ready, waited, launches, started, awaited, fore, starts,
                settles, ran, rfl, rfl⟩, fails, ?_⟩
            simp
          · rw [runs] at failed
            cases failed
  · rintro ⟨before, command, after, launches, middle, fore, told, rfl, ran, fails, rfl⟩
    induction before generalizing state launches fore with
    | nil =>
        obtain ⟨rfl, rfl, rfl⟩ := run_nil_eq_ok_iff.1 ran
        exact run_cons_unattended fails
    | cons first before ih =>
        obtain ⟨launch, ready, waited, others, started, awaited, fore, starts, settles, runs, rfl,
          rfl⟩ := run_cons_eq_ok_iff.1 ran
        have rest := ih others fore runs
        rw [List.cons_append, run_cons_settled starts settles, rest]
        simp [Except.map]

/-- A run begins with what happens in its first commands and for the next one. -/
theorem events_prefix_run {before after : List Command} {launches : List Launch} {middle : State}
    {fore : List Event} (ran : run executor before state = ⟨.ok launches, middle, fore⟩) :
    fore ++ (attend executor command middle).events <+:
      (run executor (before ++ command :: after) state).events := by
  induction before generalizing state launches fore with
  | nil =>
      obtain ⟨rfl, rfl, rfl⟩ := run_nil_eq_ok_iff.1 ran
      rw [List.nil_append, List.nil_append]
      rcases attended : attend executor command middle with ⟨failure | ⟨⟩, waited, told⟩
      · have whole : run executor (command :: after) middle = ⟨.error failure, waited, told⟩ :=
          run_cons_unattended attended
        exact ⟨[], (List.append_nil _).trans (congrArg Outcome.events whole.symm)⟩
      · obtain ⟨launch, ready, started, awaited, starts, settles, rfl⟩ :=
          Step.bind_eq_ok_iff.1 attended
        rw [run_cons_settled starts settles]
        exact List.prefix_append _ _
  | cons first before ih =>
      obtain ⟨launch, ready, waited, others, started, awaited, fore, starts, settles, runs, rfl,
        rfl⟩ := run_cons_eq_ok_iff.1 ran
      rw [List.cons_append, run_cons_settled starts settles, List.append_assoc]
      exact (List.prefix_append_right_inj _).2 (ih runs)

/-- A wait for a task begins with a wait for any task. -/
theorem events_prefix_waitAny (pending : TaskId) (state : State) :
    (executor.waitAny state).events <+: (waitFor executor pending state).events := by
  rcases waits : executor.waitAny state with ⟨failure | task, waited, told⟩
  · have whole : waitFor executor pending state = ⟨.error failure, waited, told⟩ :=
      waitFor_error waits
    exact ⟨[], (List.append_nil _).trans (congrArg Outcome.events whole.symm)⟩
  · by_cases same : task = pending
    · subst same
      rw [waitFor_matched waits]
      exact List.prefix_append _ _
    · rw [waitFor_discarded same waits, Outcome.after, List.append_assoc]
      exact List.prefix_append _ _

end Sequencer

end CommandShell
