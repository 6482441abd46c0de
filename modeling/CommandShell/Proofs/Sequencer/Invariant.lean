import CommandShell.Sequencer

/-!
What the requests of an executor carry on, every run of the sequencer carries on, whether it returns
or fails: a property of the state, of the events so far, or of both together.
-/

namespace CommandShell

namespace Step

variable {State Answer Next : Type} {property : State → List Event → Prop}

/-- A step continues a property of a state and of all events so far when every state that it leaves
has it with the events by then, also after a failure. -/
def Continues (property : State → List Event → Prop) (step : Step State Answer) : Prop :=
  ∀ state told, property state told → property (step state).state (told ++ (step state).events)

theorem continues_pure (answer : Answer) : (pure answer : Step State Answer).Continues property := by
  intro state told holds
  rwa [pure_apply, List.append_nil]

theorem Continues.bind {step : Step State Answer} {next : Answer → Step State Next}
    (first : step.Continues property) (second : ∀ answer, (next answer).Continues property) :
    (step >>= next).Continues property := by
  intro state told holds
  have middle := first state told holds
  rcases outcome : step state with ⟨failure | answer, later, events⟩
  · rw [bind_error outcome]
    rwa [outcome] at middle
  · rw [outcome] at middle
    rw [bind_ok outcome, Outcome.after, ← List.append_assoc]
    exact second answer later _ middle

/-- A step keeps a property when every state that it leaves has it, also after a failure. -/
def Keeps (property : State → Prop) (step : Step State Answer) : Prop :=
  ∀ state, property state → property (step state).state

theorem keeps_iff_continues {property : State → Prop} {step : Step State Answer} :
    step.Keeps property ↔ step.Continues fun state _ => property state :=
  ⟨fun keeps state _ => keeps state, fun continues state => continues state []⟩

end Step

namespace Sequencer

variable {State : Type} {executor : Executor State}

/-- A wait for a task fails, takes the task, or takes another one and goes on. -/
@[elab_as_elim]
theorem waitFor_induction {motive : State → Prop} (executor : Executor State) (pending : TaskId)
    (failed : ∀ state failure later events,
      executor.waitAny state = ⟨.error failure, later, events⟩ → motive state)
    (matched : ∀ state later events,
      executor.waitAny state = ⟨.ok pending, later, events⟩ → motive state)
    (discarded : ∀ state task later events, task ≠ pending →
      executor.waitAny state = ⟨.ok task, later, events⟩ → motive later → motive state)
    (state : State) : motive state := by
  induction bound : executor.pending state using Nat.strongRecOn generalizing state with
  | ind count ih =>
      rcases waited : executor.waitAny state with ⟨failure | task, later, events⟩
      · exact failed state failure later events waited
      · by_cases same : task = pending
        · exact matched state later events (same ▸ waited)
        · have rest : motive later := ih _ (bound ▸ executor.pending_lt waited) later rfl
          exact discarded state task later events same waited rest

/-- The outcomes of lines that are run one after the other, whatever becomes of each. -/
def runEach (executor : Executor State) :
    List (List Command) → State → List (Outcome State (List Launch))
  | [], _ => []
  | commands :: rest, state =>
      let outcome := run executor commands state
      outcome :: runEach executor rest outcome.state

/-- The state after lines that were run one after the other, whatever became of each. -/
def afterLines (executor : Executor State) (lines : List (List Command)) (state : State) : State :=
  lines.foldl (fun state commands => (run executor commands state).state) state

section Continues

variable {property : State → List Event → Prop}

/-- What the sequencer says of its waits continues a property. -/
structure WaitRemarks (property : State → List Event → Prop) : Prop where
  matched : ∀ pending, (Step.tell [.log .main (.waitMatched pending)]).Continues property
  discarded : ∀ pending got,
    (Step.tell [.log .main (.waitDiscarded pending got)]).Continues property

theorem waitFor_continues (remarks : WaitRemarks property)
    (waits : executor.waitAny.Continues property) (pending : TaskId) :
    Step.Continues property (waitFor executor pending) := by
  intro state told holds
  induction state using waitFor_induction executor pending generalizing told with
  | failed state failure later events waited =>
      have taken := waits state told holds
      rw [waited] at taken
      rwa [waitFor_error waited]
  | matched state later events waited =>
      have taken := waits state told holds
      rw [waited] at taken
      rw [waitFor_matched waited, ← List.append_assoc]
      exact remarks.matched pending later _ taken
  | discarded state task later events different waited ih =>
      have taken := waits state told holds
      rw [waited] at taken
      rw [waitFor_discarded different waited, Outcome.after, ← List.append_assoc,
        ← List.append_assoc]
      exact ih _ (remarks.discarded pending task later _ taken)

theorem settle_continues (remarks : WaitRemarks property)
    (waits : executor.waitAny.Continues property) (launch : Launch) :
    (settle executor launch).Continues property := by
  rcases launch with ⟨command, _ | task⟩
  · exact Step.continues_pure ()
  · by_cases beside : command.concurrent
    · simpa only [settle, beside, ↓reduceIte] using Step.continues_pure ()
    · simpa only [settle, beside, Bool.false_eq_true, ↓reduceIte] using
        waitFor_continues remarks waits task

theorem run_continues (remarks : WaitRemarks property) {commands : List Command}
    (starts : ∀ command ∈ commands, (start executor command).Continues property)
    (waits : executor.waitAny.Continues property) : (run executor commands).Continues property := by
  induction commands with
  | nil => exact Step.continues_pure []
  | cons command rest ih =>
      have first := starts command List.mem_cons_self
      have others := ih fun other inside => starts other (List.mem_cons_of_mem _ inside)
      exact first.bind fun launch =>
        (settle_continues remarks waits launch).bind fun _ =>
          others.bind fun _ => Step.continues_pure _

/-- What every run continues, lines continue that are run one after the other. -/
theorem runEach_continues (runs : ∀ commands, (run executor commands).Continues property)
    (lines : List (List Command)) {state : State} (told : List Event) (holds : property state told) :
    property (afterLines executor lines state)
      (told ++ (runEach executor lines state).flatMap (·.events)) := by
  induction lines generalizing state told with
  | nil =>
      rw [runEach, List.flatMap_nil, List.append_nil]
      exact holds
  | cons commands rest ih =>
      have first := ih _ (runs commands state told holds)
      rwa [List.append_assoc] at first

end Continues

section Keeps

variable {property : State → Prop}

/-- Remarks change no state. -/
theorem waitRemarks_state : WaitRemarks fun (state : State) _ => property state :=
  ⟨fun _ _ _ holds => holds, fun _ _ _ _ holds => holds⟩

theorem waitFor_keeps (waits : executor.waitAny.Keeps property) (pending : TaskId) {state : State}
    (holds : property state) : property (waitFor executor pending state).state :=
  waitFor_continues waitRemarks_state (Step.keeps_iff_continues.1 waits) pending state [] holds

theorem settle_keeps (waits : executor.waitAny.Keeps property) (launch : Launch) :
    (settle executor launch).Keeps property :=
  Step.keeps_iff_continues.2
    (settle_continues waitRemarks_state (Step.keeps_iff_continues.1 waits) launch)

theorem run_keeps (dispatches : ∀ words, (executor.dispatch words).Keeps property)
    (waits : executor.waitAny.Keeps property) (commands : List Command) :
    (run executor commands).Keeps property := by
  refine Step.keeps_iff_continues.2 (run_continues waitRemarks_state (fun command _ => ?_)
    (Step.keeps_iff_continues.1 waits))
  have dispatched := Step.keeps_iff_continues.1 (dispatches command.words)
  exact dispatched.bind fun _ => Step.Continues.bind (fun _ _ holds => holds) fun _ =>
    Step.continues_pure _

theorem afterLines_keeps (dispatches : ∀ words, (executor.dispatch words).Keeps property)
    (waits : executor.waitAny.Keeps property) (lines : List (List Command)) {state : State}
    (holds : property state) : property (afterLines executor lines state) := by
  have runs (commands : List Command) :=
    Step.keeps_iff_continues.1 (run_keeps dispatches waits commands)
  exact runEach_continues runs lines [] holds

end Keeps

end Sequencer

end CommandShell
