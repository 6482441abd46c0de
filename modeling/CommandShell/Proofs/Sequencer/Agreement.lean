import CommandShell.Proofs.Sequencer.Invariant

/-!
Executors that answer alike. A run of the sequencer depends on an executor only through the requests
that the run makes.
-/

namespace CommandShell.Sequencer

variable {State : Type} {executor other : Executor State}

theorem start_congr {command : Command}
    (dispatches : executor.dispatch command.words = other.dispatch command.words) :
    start executor command = start other command := by
  rw [start, start, dispatches]

theorem waitFor_congr (waits : executor.waitAny = other.waitAny) (pending : TaskId) :
    waitFor executor pending = waitFor other pending := by
  funext state
  have alike (state : State) : other.waitAny state = executor.waitAny state := by rw [waits]
  induction state using waitFor_induction executor pending with
  | failed state failure later events waited =>
      rw [waitFor_error waited, waitFor_error ((alike state).trans waited)]
  | matched state later events waited =>
      rw [waitFor_matched waited, waitFor_matched ((alike state).trans waited)]
  | discarded state task later events different waited ih =>
      rw [waitFor_discarded different waited,
        waitFor_discarded different ((alike state).trans waited), ih]

theorem settle_congr (waits : executor.waitAny = other.waitAny) (launch : Launch) :
    settle executor launch = settle other launch := by
  rcases launch with ⟨command, _ | task⟩
  · rfl
  · simp only [settle, waitFor_congr waits task]

/-- Executors that wait alike and start the words of the commands alike run the commands alike. -/
theorem run_congr {commands : List Command} (waits : executor.waitAny = other.waitAny)
    (dispatches : ∀ command ∈ commands,
      executor.dispatch command.words = other.dispatch command.words) :
    run executor commands = run other commands := by
  induction commands with
  | nil => rfl
  | cons command rest ih =>
      have first := start_congr (dispatches command List.mem_cons_self)
      have others := ih fun next inside => dispatches next (List.mem_cons_of_mem _ inside)
      simp only [run, first, others, settle_congr waits]

end CommandShell.Sequencer
