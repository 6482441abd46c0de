import CommandShell.Proofs.Sequencer.Breakdown
import Mathlib.Logic.Function.Basic

/-!
Runs under other task numbers. The sequencer only asks whether two numbers are the same, so where an
executor answers with numbers that were renamed one to one, the run is the renamed run: `run_renamed`
for any two executors, and `renamed_of_injective` for scripts.
-/

namespace CommandShell

variable (rename : TaskId → TaskId)

section Renamed

def Thread.renamed : Thread → Thread
  | .watcher task => .watcher (rename task)
  | .main => .main
  | .program name => .program name

/-- The same record of the renamed tasks. -/
def Notice.renamed : Notice → Notice
  | .commandStarted task concurrent text => .commandStarted (rename task) concurrent text
  | .waitMatched task => .waitMatched (rename task)
  | .waitDiscarded pending got => .waitDiscarded (rename pending) (rename got)
  | .taskStarted task words => .taskStarted (rename task) words
  | .taskCollected task program => .taskCollected (rename task) program
  | .taskEnded task status? => .taskEnded (rename task) status?
  | .joinFailed task failure => .joinFailed (rename task) failure
  | other => other

/-- The same event of the renamed tasks. -/
def Event.renamed : Event → Event
  | .log thread notice => .log (thread.renamed rename) (notice.renamed rename)
  | .started text task => .started text (rename task)
  | other => other

def Launch.renamed (launch : Launch) : Launch := ⟨launch.command, launch.task?.map rename⟩

/-- The same outcome of the renamed tasks, with a state of another executor. -/
def Outcome.renamed {State View Answer Other : Type} (view : State → View)
    (answers : Answer → Other) (outcome : Outcome State Answer) : Outcome View Other :=
  ⟨outcome.answer.map answers, view outcome.state, outcome.events.map (Event.renamed rename)⟩

/-- Every answer of a script with the renamed tasks. -/
def Script.renamed (script : Script) : Script where
  dispatches := script.dispatches.map (Except.map (Option.map rename))
  completions := script.completions.map (Except.map rename)

/-- How many answers of either kind were taken from a script. -/
def Script.taken (script later : Script) : Nat × Nat :=
  (script.dispatches.length - later.dispatches.length,
    script.completions.length - later.completions.length)

end Renamed

theorem Event.isCall_renamed (event : Event) : (event.renamed rename).isCall = event.isCall := by
  cases event <;> rfl

theorem Event.filter_isCall_renamed (events : List Event) :
    (events.map (renamed rename)).filter isCall = (events.filter isCall).map (renamed rename) := by
  rw [List.filter_map]
  have same : isCall ∘ renamed rename = isCall := by
    funext event
    exact isCall_renamed rename event
  rw [same]

theorem Launch.report_renamed (launch : Launch) :
    (launch.renamed rename).report = launch.report.map (Event.renamed rename) := by
  cases launch with
  | mk command task? => cases task? <;> rfl

variable {rename} {State View : Type} {view : State → View} {executor : Executor State}
  {other : Executor View}

/-- Two sequences of steps are alike up to the names of tasks when each step is. -/
theorem Step.bind_renamed {Answer Answer' Next Next' : Type} {answers : Answer → Answer'}
    {nexts : Next → Next'} {step : Step State Answer} {step' : Step View Answer'}
    {next : Answer → Step State Next} {next' : Answer' → Step View Next'} {state : State}
    (first : step' (view state) = (step state).renamed rename view answers)
    (second : ∀ answer later, next' (answers answer) (view later) =
      (next answer later).renamed rename view nexts) :
    (step' >>= next') (view state) = ((step >>= next) state).renamed rename view nexts := by
  rcases outcome : step state with ⟨failure | answer, later, events⟩
  · have fails : step' (view state) =
        ⟨.error failure, view later, events.map (Event.renamed rename)⟩ := by
      rw [first, outcome]
      rfl
    rw [bind_error outcome, bind_error fails]
    rfl
  · have answered : step' (view state) =
        ⟨.ok (answers answer), view later, events.map (Event.renamed rename)⟩ := by
      rw [first, outcome]
      rfl
    rw [bind_ok outcome, bind_ok answered, second]
    simp [Outcome.after, Outcome.renamed]

/-- An executor answers every request as another one does, with renamed tasks. -/
structure Executor.Renames (rename : TaskId → TaskId) (view : State → View)
    (executor : Executor State) (other : Executor View) : Prop where
  dispatch : ∀ words state, other.dispatch words (view state) =
    (executor.dispatch words state).renamed rename view (Option.map rename)
  waitAny : ∀ state, other.waitAny (view state) =
    (executor.waitAny state).renamed rename view rename

theorem Script.renames (rename : TaskId → TaskId) :
    Executor.Renames rename (Script.renamed rename) Script.executor Script.executor := by
  constructor
  case dispatch =>
    intro words script
    rcases script with ⟨_ | ⟨answer, rest⟩, completions⟩ <;> rfl
  case waitAny =>
    intro script
    rcases script with ⟨dispatches, _ | ⟨answer, rest⟩⟩ <;> rfl

namespace Sequencer

theorem start_renamed (renames : Executor.Renames rename view executor other) (command : Command)
    (state : State) : start other command (view state) =
      (start executor command state).renamed rename view (Launch.renamed rename) := by
  apply Step.bind_renamed (renames.dispatch command.words state)
  intro task? later
  have reported := Launch.report_renamed rename ⟨command, task?⟩
  show (Step.tell (Launch.report ⟨command, task?.map rename⟩) >>= fun _ => _) _ = _
  rw [Step.bind_ok (Step.tell_apply _ _), Step.bind_ok (Step.tell_apply _ _)]
  simp only [Launch.renamed] at reported
  simp [Outcome.after, Outcome.renamed, Except.map, reported, Launch.renamed]

/-- Which completion is the awaited one does not depend on the names. -/
theorem waitFor_renamed (injective : Function.Injective rename)
    (renames : Executor.Renames rename view executor other) (pending : TaskId) (state : State) :
    waitFor other (rename pending) (view state) =
      (waitFor executor pending state).renamed rename view id := by
  induction state using waitFor_induction executor pending with
  | failed state failure later events waits =>
      have waits' := renames.waitAny state
      rw [waits] at waits'
      rw [waitFor_error waits, waitFor_error waits']
      rfl
  | matched state later events waits =>
      have waits' := renames.waitAny state
      rw [waits] at waits'
      rw [waitFor_matched waits, waitFor_matched waits']
      simp [Outcome.renamed, Except.map, Event.renamed, Thread.renamed, Notice.renamed]
  | discarded state task later events different waits ih =>
      have waits' := renames.waitAny state
      rw [waits] at waits'
      have different' : rename task ≠ rename pending := fun same => different (injective same)
      rw [waitFor_discarded different waits, waitFor_discarded different' waits']
      show Outcome.after _ (waitFor other (rename pending) (view later)) = _
      rw [ih]
      simp [Outcome.after, Outcome.renamed, Event.renamed, Thread.renamed, Notice.renamed]

theorem settle_renamed (injective : Function.Injective rename)
    (renames : Executor.Renames rename view executor other) (launch : Launch) (state : State) :
    settle other (launch.renamed rename) (view state) =
      (settle executor launch state).renamed rename view id := by
  rcases launch with ⟨command, _ | task⟩
  · rfl
  · by_cases beside : command.concurrent
    · simp [settle, Launch.renamed, beside, Outcome.renamed, Except.map]
    · have waits := waitFor_renamed injective renames task state
      simpa [settle, Launch.renamed, beside] using waits

/-- Where requests are answered with renamed tasks, the run is the renamed run. -/
theorem run_renamed (injective : Function.Injective rename)
    (renames : Executor.Renames rename view executor other) (commands : List Command)
    (state : State) : run other commands (view state) =
      (run executor commands state).renamed rename view (List.map (Launch.renamed rename)) := by
  induction commands generalizing state with
  | nil => rfl
  | cons command rest ih =>
      rw [run, run]
      apply Step.bind_renamed (start_renamed renames command state)
      intro launch ready
      apply Step.bind_renamed (settle_renamed injective renames launch ready)
      intro _ waited
      apply Step.bind_renamed (ih waited)
      intro launches later
      rfl

/-- A command that started is reported under its number, and if it is sequential a wait follows. -/
theorem calls_prefix_run (command : Command) (rest : List Command) (task : TaskId)
    (left : Script) :
    [.dispatch command.words, .started command.text task] ++
        (if command.concurrent then [] else [.wait]) <+:
      (run Script.executor (command :: rest)
        { left with dispatches := .ok (some task) :: left.dispatches }).events.filter
          Event.isCall := by
  have starts : start Script.executor command
      { left with dispatches := .ok (some task) :: left.dispatches } =
        ⟨.ok ⟨command, some task⟩, left,
          .dispatch command.words :: Launch.report ⟨command, some task⟩⟩ :=
    start_eq_ok_iff.2 ⟨[.dispatch command.words], rfl, rfl, rfl⟩
  have waits : (if command.concurrent then [] else [.wait]) <+:
      (settle Script.executor ⟨command, some task⟩ left).events := by
    by_cases beside : command.concurrent
    · simp [beside]
    · have asks : (Script.executor.waitAny left).events <+:
          (waitFor Script.executor task left).events := events_prefix_waitAny task left
      rw [Script.waitAny_events] at asks
      simpa [beside, settle] using asks
  have goesOn := waits.trans (Step.events_prefix_bind (settle Script.executor ⟨command, some task⟩)
    (fun _ => run Script.executor rest >>= fun launches => pure (⟨command, some task⟩ :: launches))
    left)
  have calls := goesOn.filter Event.isCall
  rw [run, Step.bind_ok starts, Outcome.after, List.filter_append]
  have first : (Event.dispatch command.words :: Launch.report ⟨command, some task⟩).filter
      Event.isCall = [.dispatch command.words, .started command.text task] := by
    simp [Launch.report, List.filter_cons, Event.isCall]
  rw [first]
  apply (List.prefix_append_right_inj _).2
  by_cases beside : command.concurrent
  · simp [beside]
  · simpa [beside, List.filter_cons, Event.isCall] using calls

/-- A run that returns launched its first command under the number it got, and if this command is
sequential it took the completions up to this number. -/
theorem taken_of_run_cons {command : Command} {rest : List Command} {task : TaskId}
    {left later : Script} {launches : List Launch} {events : List Event}
    (ran : run Script.executor (command :: rest)
      { left with dispatches := .ok (some task) :: left.dispatches } =
        ⟨.ok launches, later, events⟩) :
    launches.head? = some ⟨command, some task⟩ ∧
      (command.concurrent = false → ∃ others more, task ∉ others ∧
        left.completions = (others ++ [task]).map .ok ++ more) := by
  obtain ⟨turns, complete, commands, rfl, dispatches, completions, _⟩ := exists_turns_of_run ran
  obtain ⟨turn, turns, rfl, rfl, rfl⟩ := List.map_eq_cons_iff.1 commands
  have answer : turn.task? = some task := by simpa using (List.cons.inj dispatches).1.symm
  refine ⟨by simp [Turn.launch, answer], fun sequential => ?_⟩
  have ends := complete turn List.mem_cons_self
  simp only [Turn.Complete, answer, sequential, Bool.false_eq_true, ↓reduceIte] at ends
  obtain ⟨others, absent, taken⟩ := ends
  refine ⟨others, (turns.flatMap (·.taken)).map .ok ++ later.completions, absent, ?_⟩
  simpa [taken] using completions

/-- Task numbers are names. Where every number in a script is renamed one to one, the run has the
same outcome and goes through the same events with the renamed numbers, and it takes as many answers
of either kind. A command under the number zero is reported and waited for like any other. -/
theorem renamed_of_injective {rename : TaskId → TaskId} (injective : Function.Injective rename)
    (commands : List Command) (script : Script) :
    let outcome := run Script.executor commands script
    let outcome' := run Script.executor commands (script.renamed rename)
    outcome'.answer = outcome.answer.map (List.map (Launch.renamed rename)) ∧
      outcome'.events = outcome.events.map (Event.renamed rename) ∧
      outcome'.events.filter Event.isCall =
        (outcome.events.filter Event.isCall).map (Event.renamed rename) ∧
      outcome'.state = outcome.state.renamed rename ∧
      (script.renamed rename).taken outcome'.state = script.taken outcome.state ∧
      ∀ (command : Command) (rest : List Command) (left : Script),
        let zeroth := run Script.executor (command :: rest)
          { left with dispatches := .ok (some 0) :: left.dispatches }
        [.dispatch command.words, .started command.text 0] ++
            (if command.concurrent then [] else [.wait]) <+: zeroth.events.filter Event.isCall ∧
          ∀ launches, zeroth.answer = .ok launches →
            launches.head? = some ⟨command, some 0⟩ ∧
              (command.concurrent = false → ∃ others more, 0 ∉ others ∧
                left.completions = (others ++ [0]).map .ok ++ more) := by
  intro outcome outcome'
  have renamed : outcome' = outcome.renamed rename (Script.renamed rename)
      (List.map (Launch.renamed rename)) :=
    run_renamed injective (Script.renames rename) commands script
  refine ⟨?answer, ?events, ?calls, ?state, ?taken, ?zero⟩
  case answer => rw [renamed, Outcome.renamed]
  case events => rw [renamed, Outcome.renamed]
  case calls => rw [renamed, Outcome.renamed, Event.filter_isCall_renamed]
  case state => rw [renamed, Outcome.renamed]
  case taken => simp [renamed, Outcome.renamed, Script.taken, Script.renamed]
  case zero =>
    intro command rest left zeroth
    refine ⟨calls_prefix_run command rest 0 left, fun launches returned => ?_⟩
    have ran : zeroth = ⟨.ok launches, zeroth.state, zeroth.events⟩ := by rw [← returned]
    exact taken_of_run_cons ran

/-- The numbers zero, negative, repeated and never dispatched are turned round, and the second wait
finds a failure. -/
theorem renamed_reflected :
    let rename (task : TaskId) : TaskId := 3 - 2 * task
    let command (name : String) (concurrent : Bool) : Command := ⟨name, [name], concurrent⟩
    let commands := [command "a" false, command "b" true, command "c" false, command "a" false]
    let script : Script := ⟨[.ok (some 0), .ok (some (-4)), .ok none, .ok (some 0)],
      [.ok 9, .ok (-4), .ok 0, .ok (-4), .error (.foreign "OSError" "gone"), .ok 0]⟩
    let outcome := run Script.executor commands script
    let outcome' := run Script.executor commands (script.renamed rename)
    Function.Injective rename ∧
      outcome'.answer = outcome.answer.map (List.map (Launch.renamed rename)) ∧
      outcome'.answer.toOption = none ∧
      outcome'.events.filter Event.isCall =
        [.dispatch ["a"], .started "a" 3, .wait, .wait, .wait, .dispatch ["b"], .started "b" 11,
          .dispatch ["c"], .failed "c", .dispatch ["a"], .started "a" 3, .wait, .wait] ∧
      (script.renamed rename).taken outcome'.state = (4, 5) := by
  intro rename command commands script outcome outcome'
  have injective : Function.Injective rename := by
    have linear : ∀ first second : Int, 3 - 2 * first = 3 - 2 * second → first = second := by omega
    exact fun first second same => linear first second same
  obtain ⟨answer, _, calls, _, taken, _⟩ := renamed_of_injective injective commands script
  exact ⟨injective, answer, by decide +kernel, calls.trans (by decide +kernel),
    taken.trans (by decide +kernel)⟩

end Sequencer

end CommandShell
