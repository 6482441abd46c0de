import CommandShell.Event

/-!
Steps that may fail, with the state they leave and the events they cause. Nothing that happened
before a failure is undone.
-/

namespace CommandShell

/-- What a step leaves: its answer or its failure, the new state, and the events in order. -/
structure Outcome (State Answer : Type) where
  answer : Except Failure Answer
  state : State
  events : List Event

/-- The outcome of a step whose events follow other events. -/
def Outcome.after {State Answer : Type} (events : List Event) (outcome : Outcome State Answer) :
    Outcome State Answer :=
  { outcome with events := events ++ outcome.events }

@[simp] theorem Outcome.after_nil {State Answer : Type} (outcome : Outcome State Answer) :
    outcome.after [] = outcome := rfl

theorem Outcome.after_eq_iff {State Answer : Type} {outcome : Outcome State Answer}
    {first events : List Event} {answer : Except Failure Answer} {state : State} :
    outcome.after first = ⟨answer, state, events⟩ ↔
      ∃ second, outcome = ⟨answer, state, second⟩ ∧ events = first ++ second := by
  constructor
  · intro h
    cases h
    exact ⟨outcome.events, rfl, rfl⟩
  · rintro ⟨second, rfl, rfl⟩
    rfl

/-- A step from a state. -/
def Step (State Answer : Type) : Type := State → Outcome State Answer

namespace Step

variable {State : Type} {Answer Next : Type}

protected def pure (answer : Answer) : Step State Answer := fun state => ⟨.ok answer, state, []⟩

/-- The second step starts where the first one succeeded, and is left out when the first fails. -/
protected def bind (step : Step State Answer) (next : Answer → Step State Next) :
    Step State Next := fun state =>
  match step state with
  | ⟨.ok answer, state, events⟩ => (next answer state).after events
  | ⟨.error failure, state, events⟩ => ⟨.error failure, state, events⟩

instance : Monad (Step State) where
  pure := Step.pure
  bind := Step.bind

/-- Events happen, and nothing else. -/
def tell (events : List Event) : Step State Unit := fun state => ⟨.ok (), state, events⟩

/-- A step that only fails. -/
def fail (failure : Failure) : Step State Answer := fun state => ⟨.error failure, state, []⟩

@[simp] theorem pure_apply (answer : Answer) (state : State) :
    (pure answer : Step State Answer) state = ⟨.ok answer, state, []⟩ := rfl

@[simp] theorem tell_apply (events : List Event) (state : State) :
    tell events state = ⟨.ok (), state, events⟩ := rfl

theorem bind_ok {step : Step State Answer} {next : Answer → Step State Next} {state later : State}
    {answer : Answer} {events : List Event} (h : step state = ⟨.ok answer, later, events⟩) :
    (step >>= next) state = (next answer later).after events := by
  show Step.bind step next state = _
  simp [Step.bind, h]

theorem bind_error {step : Step State Answer} {next : Answer → Step State Next}
    {state later : State} {failure : Failure} {events : List Event}
    (h : step state = ⟨.error failure, later, events⟩) :
    (step >>= next) state = ⟨.error failure, later, events⟩ := by
  show Step.bind step next state = _
  simp [Step.bind, h]

/-- Two steps succeed together when the second one succeeds from where the first one ends. -/
theorem bind_eq_ok_iff {step : Step State Answer} {next : Answer → Step State Next}
    {state later : State} {result : Next} {events : List Event} :
    (step >>= next) state = ⟨.ok result, later, events⟩ ↔
      ∃ answer middle first second, step state = ⟨.ok answer, middle, first⟩ ∧
        next answer middle = ⟨.ok result, later, second⟩ ∧ events = first ++ second := by
  constructor
  · intro h
    rcases outcome : step state with ⟨answer | failure, middle, first⟩
    · rw [bind_error outcome] at h
      cases h
    · rw [bind_ok outcome] at h
      obtain ⟨second, two, same⟩ := Outcome.after_eq_iff.1 h
      exact ⟨_, middle, first, second, rfl, two, same⟩
  · rintro ⟨answer, middle, first, second, one, two, rfl⟩
    rw [bind_ok one, two]
    rfl

theorem pure_eq_ok_iff {answer result : Answer} {state later : State} {events : List Event} :
    (pure answer : Step State Answer) state = ⟨.ok result, later, events⟩ ↔
      answer = result ∧ state = later ∧ events = [] := by
  simp [eq_comm]

end Step

end CommandShell
