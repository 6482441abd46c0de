import CommandShell.Proofs.Sequencer.Invariant

/-!
What happens in steps, whatever state they start from. A run of the sequencer emits what the
requests of its executor emit, what it says itself, and nothing else.
-/

namespace CommandShell

namespace Step

variable {State Answer : Type} {property : Event → Prop}

/-- A step emits only events with a property, also when it fails. -/
def Emits (property : Event → Prop) (step : Step State Answer) : Prop :=
  ∀ state, ∀ event ∈ (step state).events, property event

theorem emits_iff_continues {step : Step State Answer} :
    step.Emits property ↔ step.Continues fun _ told => ∀ event ∈ told, property event := by
  constructor
  · intro emits state told holds event inside
    rcases List.mem_append.1 inside with before | after
    · exact holds event before
    · exact emits state event after
  · intro continues state
    exact continues state [] fun _ inside => absurd inside List.not_mem_nil

theorem emits_tell {events : List Event} (all : ∀ event ∈ events, property event) :
    (tell events : Step State Unit).Emits property := fun _ => all

end Step

namespace Sequencer

variable {State : Type} {executor : Executor State} {property : Event → Prop}

/-- What the sequencer says itself has a property. -/
structure Remarks (property : Event → Prop) : Prop where
  report : ∀ launch : Launch, ∀ event ∈ launch.report, property event
  matched : ∀ pending, property (.log .main (.waitMatched pending))
  discarded : ∀ pending got, property (.log .main (.waitDiscarded pending got))

theorem run_emits (remarks : Remarks property) {commands : List Command}
    (dispatches : ∀ command ∈ commands, (executor.dispatch command.words).Emits property)
    (waits : executor.waitAny.Emits property) : (run executor commands).Emits property := by
  have said : WaitRemarks fun (_ : State) told => ∀ event ∈ told, property event := by
    constructor
    · intro pending
      exact Step.emits_iff_continues.1 (Step.emits_tell (by simpa using remarks.matched pending))
    · intro pending got
      exact Step.emits_iff_continues.1
        (Step.emits_tell (by simpa using remarks.discarded pending got))
  refine Step.emits_iff_continues.2 (run_continues said (fun command inside => ?_)
    (Step.emits_iff_continues.1 waits))
  have dispatched := Step.emits_iff_continues.1 (dispatches command inside)
  have reported (launch : Launch) : Step.Continues (fun (_ : State) told =>
      ∀ event ∈ told, property event) (Step.tell launch.report) :=
    Step.emits_iff_continues.1 (Step.emits_tell (remarks.report launch))
  exact dispatched.bind fun task? => (reported ⟨command, task?⟩).bind fun _ => Step.continues_pure _

end Sequencer

end CommandShell
