import CommandShell.Proofs.Sequencer.Emission
import CommandShell.Proofs.Sequencer.Unblocked

/-!
Waiting for whatever task ends next, as long as an executor has tasks. A drain fails only with a wait
that fails, and it carries on whatever its waits carry on.
-/

namespace CommandShell.Executor

variable {State View : Type} {busy : State → Bool}

/-- Wait for tasks while the state has any. -/
def drain (executor : Executor State) (busy : State → Bool) (state : State) : Outcome State Unit :=
  if busy state then
    match _waiting : executor.waitAny state with
    | ⟨.error failure, later, events⟩ => ⟨.error failure, later, events⟩
    | ⟨.ok _, later, events⟩ => (drain executor busy later).after events
  else ⟨.ok (), state, []⟩
termination_by executor.pending state
decreasing_by exact executor.pending_lt _waiting

variable {executor : Executor State} {state later : State} {events : List Event}

theorem drain_done (idle : busy state = false) :
    executor.drain busy state = ⟨.ok (), state, []⟩ := by
  rw [drain, idle]
  rfl

theorem drain_failed {failure : Failure} (left : busy state = true)
    (waited : executor.waitAny state = ⟨.error failure, later, events⟩) :
    executor.drain busy state = ⟨.error failure, later, events⟩ := by
  rw [drain, if_pos left]
  split <;> simp_all

theorem drain_taken {task : TaskId} (left : busy state = true)
    (waited : executor.waitAny state = ⟨.ok task, later, events⟩) :
    executor.drain busy state = (executor.drain busy later).after events := by
  rw [drain, if_pos left]
  split <;> simp_all

/-- A drain is done, fails to wait, or takes a task and goes on. -/
@[elab_as_elim]
theorem drain_induction {motive : State → Prop} (executor : Executor State) (busy : State → Bool)
    (done : ∀ state, busy state = false → motive state)
    (failed : ∀ state failure later events, busy state = true →
      executor.waitAny state = ⟨.error failure, later, events⟩ → motive state)
    (taken : ∀ state task later events, busy state = true →
      executor.waitAny state = ⟨.ok task, later, events⟩ → motive later → motive state)
    (state : State) : motive state := by
  induction bound : executor.pending state using Nat.strongRecOn generalizing state with
  | ind count ih =>
      rcases left : busy state with _ | _
      · exact done state left
      · rcases waited : executor.waitAny state with ⟨failure | task, later, events⟩
        · exact failed state failure later events left waited
        · have rest : motive later := ih _ (bound ▸ executor.pending_lt waited) later rfl
          exact taken state task later events left waited rest

theorem drain_continues {property : State → List Event → Prop}
    (waits : executor.waitAny.Continues property) :
    Step.Continues property (executor.drain busy) := by
  intro state told holds
  induction state using drain_induction executor busy generalizing told with
  | done state idle => rwa [drain_done idle, List.append_nil]
  | failed state failure later events left waited =>
      have taken := waits state told holds
      rw [waited] at taken
      rwa [drain_failed left waited]
  | taken state task later events left waited ih =>
      have taken := waits state told holds
      rw [waited] at taken
      rw [drain_taken left waited, Outcome.after, ← List.append_assoc]
      exact ih _ taken

theorem drain_busy (left : busy state = true) :
    executor.drain busy state = (executor.waitAny >>= fun _ => executor.drain busy) state := by
  rcases waited : executor.waitAny state with ⟨failure | task, later, events⟩
  · exact (drain_failed left waited).trans (Step.bind_error waited).symm
  · have goes := @Step.bind_ok _ _ _ _ (fun _ => executor.drain busy) _ _ _ _ waited
    exact (drain_taken left waited).trans goes.symm

/-- Drains look alike when their waits do and they go on alike. -/
theorem drain_seen {shadow : Executor View} {view : State → View} {keep : Event → Bool}
    {busy' : View → Bool} (same : ∀ state, busy state = busy' (view state))
    (waits : ∀ state, (executor.waitAny state).seen view keep =
      (shadow.waitAny (view state)).seen id keep) (state : State) :
    (executor.drain busy state).seen view keep =
      (shadow.drain busy' (view state)).seen id keep := by
  induction state using drain_induction executor busy with
  | done state idle =>
      rw [drain_done idle, drain_done ((same state).symm.trans idle)]
      rfl
  | failed state failure later events left waited =>
      rw [drain_busy left, drain_busy ((same state).symm.trans left)]
      refine Step.seen_bind (waits state) fun _ _ _ other => ?_
      rw [waited] at other
      cases other
  | taken state task later events left waited ih =>
      rw [drain_busy left, drain_busy ((same state).symm.trans left)]
      refine Step.seen_bind (waits state) fun _ _ _ other => ?_
      rw [waited] at other
      cases other
      exact ih

end CommandShell.Executor
