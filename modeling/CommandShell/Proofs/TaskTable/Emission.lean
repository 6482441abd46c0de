import CommandShell.Proofs.Sequencer.Draining
import CommandShell.TaskTable

/-!
What the requests and the drain of a task table emit, whatever the table holds.
-/

namespace CommandShell

/-- A request with words is refused when its program cannot be started, and starts a job when it
can. -/
theorem Launcher.reply_cons_eq_ok_iff {launcher : Launcher} {program : String}
    {arguments : List String} {reply : Reply} :
    launcher.reply (program :: arguments) = .ok reply ↔
      (∃ failure, launcher program arguments = .error failure ∧
        failure.family? = some .dispatch ∧ reply = .refused (.startRefused program failure)) ∨
      ∃ job, launcher program arguments = .ok job ∧ reply = .started job := by
  rcases launched : launcher program arguments with failure | job
  · by_cases family : failure.family? = some .dispatch
    · simp [Launcher.reply, launched, family, eq_comm]
    · simp [Launcher.reply, launched, family]
  · simp [Launcher.reply, launched, eq_comm]

namespace TaskTable

variable {property : Event → Prop} {launcher : Launcher} {words : List String}

theorem waitAny_emits
    (collected : ∀ task program, property (.log .main (.taskCollected task program))) :
    waitAny.Emits property := by
  intro table event inside
  rcases next : table.completed with _ | ⟨task, rest⟩
  · rw [waitAny, next] at inside
    exact absurd inside List.not_mem_nil
  · rw [waitAny, next, List.mem_singleton] at inside
    rw [inside]
    exact collected _ _

/-- A dispatch records a refusal, or what its job does and that the task started. -/
theorem dispatch_emits
    (refused : ∀ notice, launcher.reply words = .ok (.refused notice) →
      property (.log .main notice))
    (started : ∀ task, property (.log .main (.taskStarted task words)))
    (course : ∀ job, launcher.reply words = .ok (.started job) →
      ∀ task, ∀ event ∈ Job.course task job, property event) :
    (dispatch launcher words).Emits property := by
  intro table event inside
  have step := dispatched launcher words table
  generalize dispatch launcher words table = outcome at step inside
  cases step with
  | failed reply => exact absurd inside List.not_mem_nil
  | refused reply =>
      obtain rfl := List.mem_singleton.1 inside
      exact refused _ reply
  | held reply gated =>
      obtain rfl := List.mem_singleton.1 inside
      exact started _
  | done reply free =>
      rw [List.mem_append, List.mem_singleton] at inside
      rcases inside with during | rfl
      · exact course _ reply _ event during
      · exact started _

/-- Tasks are outstanding. -/
def isBusy (table : TaskTable) : Bool := !table.outstanding.isEmpty

/-- Launchers have no part in a drain. -/
theorem drain_eq (launcher : Launcher) : drain = (executor launcher).drain isBusy := by
  funext table
  induction table using Executor.drain_induction (executor launcher) isBusy with
  | done table idle =>
      have nothing : table.outstanding.isEmpty = true := by simpa [isBusy] using idle
      rw [Executor.drain_done idle, drain, if_pos nothing]
  | failed table failure later events left waited =>
      have more : ¬ table.outstanding.isEmpty = true := by simpa [isBusy] using left
      have waited' : waitAny table = ⟨.error failure, later, events⟩ := waited
      rw [Executor.drain_failed left waited, drain, if_neg more]
      split <;> simp_all
  | taken table task later events left waited ih =>
      have more : ¬ table.outstanding.isEmpty = true := by simpa [isBusy] using left
      have waited' : waitAny table = ⟨.ok task, later, events⟩ := waited
      rw [Executor.drain_taken left waited, drain, if_neg more, ← ih]
      split <;> simp_all

/-- A drain emits what its waits emit. -/
theorem drain_emits (waits : waitAny.Emits property) : Step.Emits property drain := by
  rw [drain_eq fun _ _ => .error .wouldBlock]
  exact Step.emits_iff_continues.2 (Executor.drain_continues (Step.emits_iff_continues.1 waits))

end TaskTable

end CommandShell
