import CommandShell.Step

/-!
Executors start tasks and hand back the numbers of tasks that ended, one at a time and in an order of
their own.
-/

namespace CommandShell

/-- An executor over its states. `pending` bounds how often a wait can still succeed. -/
structure Executor (State : Type) where
  /-- Start a task; no number means that it did not start. -/
  dispatch : List String → Step State (Option TaskId)
  /-- The number of some task that ended. -/
  waitAny : Step State TaskId
  pending : State → Nat
  pending_lt : ∀ {state later : State} {task : TaskId} {events : List Event},
    waitAny state = ⟨.ok task, later, events⟩ → pending later < pending state

/-- Answers laid down in advance for every request. -/
structure Script where
  dispatches : List (Except Failure (Option TaskId))
  completions : List (Except Failure TaskId)

namespace Script

/-- The next answer to a dispatch. -/
def dispatch (words : List String) : Step Script (Option TaskId) := fun script =>
  match script.dispatches with
  | [] => ⟨.error (.scriptEnded "dispatch"), script, [.dispatch words]⟩
  | answer :: rest => ⟨answer, { script with dispatches := rest }, [.dispatch words]⟩

/-- The next answer to a wait. -/
def waitAny : Step Script TaskId := fun script =>
  match script.completions with
  | [] => ⟨.error (.scriptEnded "wait_any"), script, [.wait]⟩
  | answer :: rest => ⟨answer, { script with completions := rest }, [.wait]⟩

/-- An executor that follows a script. -/
def executor : Executor Script where
  dispatch := dispatch
  waitAny := waitAny
  pending script := script.completions.length
  pending_lt {state later task events} h := by
    unfold waitAny at h
    split at h <;> simp_all
    rcases h with ⟨_, rfl, _⟩
    simp

end Script

end CommandShell
