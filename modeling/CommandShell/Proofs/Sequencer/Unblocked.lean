import CommandShell.Proofs.Sequencer.Failing

/-!
Runs in which every wait comes to its end. Where waits are not seen, such a run looks like a run that
starts the same commands and waits for none. Only a request to start a command can make it fail.
-/

namespace CommandShell

variable {State View : Type} {view : State → View} {keep : Event → Bool}

/-- What is seen of an outcome: its answer, a view of its state and some of its events. -/
def Outcome.seen {Answer : Type} (view : State → View) (keep : Event → Bool)
    (outcome : Outcome State Answer) : Outcome View Answer :=
  ⟨outcome.answer, view outcome.state, outcome.events.filter keep⟩

/-- Two sequences of steps look alike when each step does. -/
theorem Step.seen_bind {Answer Next : Type} {step : Step State Answer} {shadow : Step View Answer}
    {next : Answer → Step State Next} {next' : Answer → Step View Next} {state : State}
    (first : (step state).seen view keep = (shadow (view state)).seen id keep)
    (second : ∀ answer later events, step state = ⟨.ok answer, later, events⟩ →
      (next answer later).seen view keep = (next' answer (view later)).seen id keep) :
    ((step >>= next) state).seen view keep = ((shadow >>= next') (view state)).seen id keep := by
  rcases one : step state with ⟨answer, later, events⟩
  rcases two : shadow (view state) with ⟨answer', later', events'⟩
  simp only [one, two, Outcome.seen, Outcome.mk.injEq, id_eq] at first
  obtain ⟨rfl, rfl, shown⟩ := first
  cases answer with
  | error failure => simp [bind_error one, bind_error two, Outcome.seen, shown]
  | ok answer =>
      have rest := second answer later events one
      simp only [Outcome.seen, Outcome.mk.injEq, id_eq] at rest
      obtain ⟨answers, states, told⟩ := rest
      simp [bind_ok one, bind_ok two, Outcome.after, Outcome.seen, shown, answers, states, told]

namespace Sequencer

/-- Every wait of a run of commands comes to its end. -/
def Unblocked (executor : Executor State) : List Command → State → Prop
  | [], _ => True
  | command :: rest, state =>
      ∀ launch ready events, start executor command state = ⟨.ok launch, ready, events⟩ →
        (settle executor launch ready).answer = .ok () ∧
          Unblocked executor rest (settle executor launch ready).state

variable {executor : Executor State} {state later : State} {commands : List Command}

section Returning

variable {events : List Event}

theorem Unblocked.exists_settle {command : Command} {rest : List Command} {launch : Launch}
    {ready : State} (unblocked : Unblocked executor (command :: rest) state)
    (starts : start executor command state = ⟨.ok launch, ready, events⟩) :
    ∃ waited awaited, settle executor launch ready = ⟨.ok (), waited, awaited⟩ ∧
      Unblocked executor rest waited := by
  obtain ⟨returns, others⟩ := unblocked launch ready events starts
  rcases settles : settle executor launch ready with ⟨answer, waited, awaited⟩
  rw [settles] at returns others
  obtain rfl : answer = .ok () := returns
  exact ⟨waited, awaited, rfl, others⟩

/-- A run of commands is about these commands, in their order. -/
theorem run_commands {launches : List Launch}
    (ran : run executor commands state = ⟨.ok launches, later, events⟩) :
    launches.map (·.command) = commands := by
  induction commands generalizing state launches events with
  | nil =>
      obtain ⟨rfl, _, _⟩ := run_nil_eq_ok_iff.1 ran
      rfl
  | cons command rest ih =>
      obtain ⟨launch, ready, waited, others, _, _, _, starts, _, runs, rfl, _⟩ :=
        run_cons_eq_ok_iff.1 ran
      obtain ⟨_, _, same, _⟩ := start_eq_ok_iff.1 starts
      rw [List.map_cons, same, ih runs]

/-- No wait fails after commands that were run to their end. -/
theorem Unblocked.after_run {before rest : List Command} {launches : List Launch} {middle : State}
    {fore : List Event} (unblocked : Unblocked executor (before ++ rest) state)
    (ran : run executor before state = ⟨.ok launches, middle, fore⟩) :
    Unblocked executor rest middle := by
  induction before generalizing state launches fore with
  | nil =>
      obtain ⟨_, rfl, _⟩ := run_nil_eq_ok_iff.1 ran
      exact unblocked
  | cons first before ih =>
      obtain ⟨launch, ready, waited, others, _, awaited, _, starts, settles, runs, _, _⟩ :=
        run_cons_eq_ok_iff.1 ran
      obtain ⟨waited', awaited', settles', others'⟩ := unblocked.exists_settle starts
      cases settles.symm.trans settles'
      exact ih others' runs

/-- A run without a failing wait fails where a command cannot be dispatched. The commands before it
were run to their end, and nothing happens after it. -/
theorem Unblocked.exists_of_error {failure : Failure} (unblocked : Unblocked executor commands state)
    (failed : run executor commands state = ⟨.error failure, later, events⟩) :
    ∃ before command after launches middle fore asked, commands = before ++ command :: after ∧
      run executor before state = ⟨.ok launches, middle, fore⟩ ∧
      executor.dispatch command.words middle = ⟨.error failure, later, asked⟩ ∧
      events = fore ++ asked := by
  obtain ⟨before, command, after, launches, middle, fore, told, rfl, ran, fails, rfl⟩ :=
    run_eq_error_iff.1 failed
  refine ⟨before, command, after, launches, middle, fore, told, rfl, ran, ?_, rfl⟩
  rcases attend_eq_error_iff.1 fails with undispatched | ⟨_, _, _, _, starts, settles, _⟩
  · exact undispatched
  · obtain ⟨_, _, settles', _⟩ := (unblocked.after_run ran).exists_settle starts
    cases settles.symm.trans settles'

/-- What a run returns of a command is the answer to its dispatch. -/
theorem exists_dispatch_of_mem {launches : List Launch}
    (ran : run executor commands state = ⟨.ok launches, later, events⟩) {launch : Launch}
    (inside : launch ∈ launches) :
    ∃ before ready asked, executor.dispatch launch.command.words before =
      ⟨.ok launch.task?, ready, asked⟩ := by
  induction commands generalizing state launches events with
  | nil =>
      obtain ⟨rfl, _, _⟩ := run_nil_eq_ok_iff.1 ran
      exact absurd inside List.not_mem_nil
  | cons command rest ih =>
      obtain ⟨first, ready, _, others, _, _, _, starts, _, runs, rfl, _⟩ :=
        run_cons_eq_ok_iff.1 ran
      rcases List.mem_cons.1 inside with rfl | after
      · obtain ⟨asked, dispatched, same, _⟩ := start_eq_ok_iff.1 starts
        exact ⟨state, ready, asked, same ▸ dispatched⟩
      · exact ih runs after

end Returning

/-- An executor that starts tasks and hands none back. -/
def startsOnly (dispatch : List String → Step State (Option TaskId)) : Executor State where
  dispatch := dispatch
  waitAny := Step.fail .wouldBlock
  pending _ := 0
  pending_lt h := by cases h

/-- Start commands in order and wait for none. -/
def startAll (executor : Executor State) : List Command → Step State (List Launch)
  | [] => pure []
  | command :: rest => do
      let launch ← start executor command
      let launches ← startAll executor rest
      return launch :: launches

/-- Waits are not seen: they change nothing in view and cause no event that is kept. -/
structure Hidden (executor : Executor State) (view : State → View) (keep : Event → Bool) :
    Prop where
  state : ∀ state, view (executor.waitAny state).state = view state
  events : ∀ state, ∀ event ∈ (executor.waitAny state).events, keep event = false
  matched : ∀ pending, keep (.log .main (.waitMatched pending)) = false
  discarded : ∀ pending got, keep (.log .main (.waitDiscarded pending got)) = false

theorem Hidden.settle_seen (hidden : Hidden executor view keep) (launch : Launch) (state : State) :
    view (settle executor launch state).state = view state ∧
      (settle executor launch state).events.filter keep = [] := by
  let property (later : State) (told : List Event) : Prop :=
    view later = view state ∧ told.filter keep = []
  have remarks : WaitRemarks property := by
    constructor
    · rintro pending later told ⟨same, nothing⟩
      exact ⟨same, by simp [nothing, hidden.matched]⟩
    · rintro pending got later told ⟨same, nothing⟩
      exact ⟨same, by simp [nothing, hidden.discarded]⟩
  have waits : executor.waitAny.Continues property := by
    rintro later told ⟨same, nothing⟩
    have none := List.filter_eq_nil_iff.2 fun event inside =>
      (by simpa using hidden.events later event inside : ¬ keep event = true)
    exact ⟨(hidden.state later).trans same, by rw [List.filter_append, nothing, none]; rfl⟩
  simpa only [List.nil_append] using settle_continues remarks waits launch state [] ⟨rfl, rfl⟩

/-- A run without a failing wait is seen as a run that waits for nothing, on an executor that answers
every request alike. -/
theorem Unblocked.run_seen {shadow : Executor View} (unblocked : Unblocked executor commands state)
    (hidden : Hidden executor view keep)
    (dispatches : ∀ words state, (executor.dispatch words state).seen view keep =
      (shadow.dispatch words (view state)).seen id keep) :
    (run executor commands state).seen view keep =
      (startAll shadow commands (view state)).seen id keep := by
  induction commands generalizing state with
  | nil => rfl
  | cons command rest ih =>
      have starts : (start executor command state).seen view keep =
          (start shadow command (view state)).seen id keep :=
        Step.seen_bind (dispatches _ _) fun _ _ _ _ => rfl
      rw [run, startAll]
      refine Step.seen_bind starts fun launch ready events started => ?_
      obtain ⟨waited, awaited, settles, others⟩ := unblocked.exists_settle started
      obtain ⟨same, nothing⟩ := hidden.settle_seen launch ready
      rw [settles] at same nothing
      have goes : ((run executor rest >>= fun launches => pure (launch :: launches)) waited).seen
            view keep =
          ((startAll shadow rest >>= fun launches => pure (launch :: launches)) (view waited)).seen
            id keep :=
        Step.seen_bind (ih others) fun _ _ _ _ => rfl
      rw [Step.bind_ok settles, ← same, ← goes]
      simp [Outcome.seen, Outcome.after, nothing]

end Sequencer

end CommandShell
