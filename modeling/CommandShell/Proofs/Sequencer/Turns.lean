import CommandShell.Sequencer

/-!
A run on a script as a sequence of turns, one for each command. A turn holds the answer to the
command's dispatch and the completions that were taken for the command. A run returns exactly when
its script begins with the answers of complete turns, and the turns are all that happens in it.
-/

namespace CommandShell

/-- Requests to an executor and reports to the user are calls. -/
def Event.isCall : Event → Bool
  | .dispatch _ => true
  | .wait => true
  | .started _ _ => true
  | .failed _ => true
  | .closed => true
  | _ => false

namespace Script

variable {script later : Script} {events : List Event}

theorem dispatch_eq_ok_iff {words : List String} {task? : Option TaskId} :
    executor.dispatch words script = ⟨.ok task?, later, events⟩ ↔
      script.dispatches = .ok task? :: later.dispatches ∧
        script.completions = later.completions ∧ events = [.dispatch words] := by
  rcases script with ⟨_ | ⟨answer, rest⟩, completions⟩ <;> rcases later with ⟨dispatches, others⟩
  · simp [executor, dispatch]
  · simp [executor, dispatch, and_assoc, eq_comm]

theorem waitAny_error {failure : Failure} {rest : List (Except Failure TaskId)}
    (next : script.completions = .error failure :: rest) :
    executor.waitAny script = ⟨.error failure, { script with completions := rest }, [.wait]⟩ := by
  simp [executor, waitAny, next]

theorem waitAny_ok {task : TaskId} {rest : List (Except Failure TaskId)}
    (next : script.completions = .ok task :: rest) :
    executor.waitAny script = ⟨.ok task, { script with completions := rest }, [.wait]⟩ := by
  simp [executor, waitAny, next]

theorem waitAny_nil (next : script.completions = []) :
    executor.waitAny script = ⟨.error (.scriptEnded "wait_any"), script, [.wait]⟩ := by
  simp [executor, waitAny, next]

end Script

namespace Sequencer

/-- One wait and the record of what it handed back. -/
def taking (pending got : TaskId) : List Event :=
  [.wait, .log .main (if got = pending then .waitMatched pending else .waitDiscarded pending got)]

/-- What a run does for one command. -/
structure Turn where
  command : Command
  task? : Option TaskId
  taken : List TaskId

namespace Turn

def launch (turn : Turn) : Launch := ⟨turn.command, turn.task?⟩

/-- Completions are taken for a sequential command that started, up to the first one that is its
own, and for no other command. -/
def Complete (turn : Turn) : Prop :=
  match turn.task? with
  | none => turn.taken = []
  | some task =>
      if turn.command.concurrent then turn.taken = []
      else ∃ others, task ∉ others ∧ turn.taken = others ++ [task]

/-- One dispatch, one report, and a wait for every completion taken. -/
def calls (turn : Turn) : List Event :=
  .dispatch turn.command.words ::
    (match turn.task? with
      | none => .failed turn.command.text
      | some task => .started turn.command.text task) ::
    turn.taken.map fun _ => .wait

/-- The waits of a turn with their records. -/
def waits (turn : Turn) : List Event :=
  match turn.task? with
  | none => []
  | some task => turn.taken.flatMap (taking task)

/-- The calls of a turn with the log records between them. -/
def events (turn : Turn) : List Event :=
  .dispatch turn.command.words :: turn.launch.report ++ turn.waits

theorem filter_taking (pending : TaskId) (taken : List TaskId) :
    (taken.flatMap (taking pending)).filter Event.isCall = taken.map fun _ => .wait := by
  induction taken with
  | nil => rfl
  | cons got rest ih => simp [taking, List.filter_cons, Event.isCall, ih]

theorem filter_events {turn : Turn} (complete : turn.Complete) :
    turn.events.filter Event.isCall = turn.calls := by
  rcases turn with ⟨command, _ | task, taken⟩
  · have none : taken = [] := complete
    simp [events, waits, calls, launch, Launch.report, List.filter_cons, Event.isCall, none]
  · simp [events, waits, calls, launch, Launch.report, List.filter_cons, Event.isCall, filter_taking]

theorem filter_flatMap_events {turns : List Turn} (complete : ∀ turn ∈ turns, turn.Complete) :
    (turns.flatMap events).filter Event.isCall = turns.flatMap calls := by
  induction turns with
  | nil => rfl
  | cons turn rest ih =>
      rw [List.flatMap_cons, List.filter_append, filter_events (complete turn (by simp)),
        ih fun other inside => complete other (by simp [inside]), List.flatMap_cons]

end Turn

section Script

variable {script later : Script} {events : List Event}

/-- A wait on a script takes the completions before the pending one and then the pending one. -/
theorem waitFor_script_eq_ok_iff {pending : TaskId} :
    waitFor Script.executor pending script = ⟨.ok (), later, events⟩ ↔
      ∃ others, pending ∉ others ∧ script.dispatches = later.dispatches ∧
        script.completions = (others ++ [pending]).map .ok ++ later.completions ∧
        events = (others ++ [pending]).flatMap (taking pending) := by
  induction next : script.completions generalizing script events with
  | nil =>
      rw [waitFor_error (Script.waitAny_nil next)]
      simp
  | cons answer rest ih =>
      rcases answer with failure | got
      · rw [waitFor_error (Script.waitAny_error next)]
        constructor
        · intro h
          cases h
        · rintro ⟨_ | ⟨other, others⟩, _, _, h, _⟩ <;> simp at h
      · by_cases same : got = pending
        · subst same
          rw [waitFor_matched (Script.waitAny_ok next)]
          constructor
          · intro h
            cases h
            exact ⟨[], by simp, rfl, by simp, by simp [taking]⟩
          · rintro ⟨_ | ⟨other, others⟩, absent, dispatches, completions, rfl⟩
            · rcases later with ⟨_, _⟩
              simp_all [taking]
            · simp_all
        · rw [waitFor_discarded same (Script.waitAny_ok next), Outcome.after_eq_iff]
          constructor
          · rintro ⟨more, waits, rfl⟩
            obtain ⟨others, absent, dispatches, completions, rfl⟩ := (ih rfl).1 waits
            refine ⟨got :: others, ?_, dispatches, ?_, by simp [taking, same]⟩
            · simp [absent, Ne.symm same]
            · simpa using completions
          · rintro ⟨_ | ⟨other, others⟩, absent, dispatches, completions, rfl⟩
            · simp_all
            · simp only [List.cons_append, List.map_cons, List.cons.injEq, Except.ok.injEq]
                at completions
              obtain ⟨rfl, completions⟩ := completions
              refine ⟨_, (ih rfl).2 ⟨others, ?_, dispatches, completions, rfl⟩, by
                simp [taking, same]⟩
              simp_all

/-- What a launch waits for completes a turn. -/
theorem settle_script_eq_ok_iff {command : Command} {task? : Option TaskId} :
    settle Script.executor ⟨command, task?⟩ script = ⟨.ok (), later, events⟩ ↔
      ∃ taken, Turn.Complete ⟨command, task?, taken⟩ ∧ script.dispatches = later.dispatches ∧
        script.completions = taken.map .ok ++ later.completions ∧
        events = Turn.waits ⟨command, task?, taken⟩ := by
  have idle : (pure () : Step Script Unit) script = ⟨.ok (), later, events⟩ ↔
      ∃ taken : List TaskId, taken = [] ∧ script.dispatches = later.dispatches ∧
        script.completions = taken.map .ok ++ later.completions ∧ events = [] := by
    rcases script with ⟨_, _⟩
    rcases later with ⟨_, _⟩
    simp [and_assoc]
  rcases task? with _ | task
  · exact idle
  · by_cases beside : command.concurrent
    · simp only [settle, beside, Turn.Complete, Turn.waits, ↓reduceIte]
      rw [idle]
      simp +contextual
    · simp only [settle, beside, Turn.Complete, Turn.waits, Bool.false_eq_true, ↓reduceIte]
      rw [waitFor_script_eq_ok_iff]
      constructor
      · rintro ⟨others, absent, dispatches, completions, rfl⟩
        exact ⟨_, ⟨others, absent, rfl⟩, dispatches, completions, rfl⟩
      · rintro ⟨_, ⟨others, absent, rfl⟩, dispatches, completions, rfl⟩
        exact ⟨others, absent, dispatches, completions, rfl⟩

/-- Starting a command and waiting for it makes a turn. -/
theorem exists_turn {command : Command} {launch : Launch} {ready : Script}
    {started awaited : List Event}
    (starts : start Script.executor command script = ⟨.ok launch, ready, started⟩)
    (settles : settle Script.executor launch ready = ⟨.ok (), later, awaited⟩) :
    ∃ turn : Turn, turn.Complete ∧ turn.command = command ∧ turn.launch = launch ∧
      script.dispatches = .ok turn.task? :: later.dispatches ∧
      script.completions = turn.taken.map .ok ++ later.completions ∧
      started ++ awaited = turn.events := by
  obtain ⟨asked, dispatched, rfl, rfl⟩ := start_eq_ok_iff.1 starts
  obtain ⟨dispatches, kept, rfl⟩ := Script.dispatch_eq_ok_iff.1 dispatched
  obtain ⟨taken, complete, same, completions, rfl⟩ := settle_script_eq_ok_iff.1 settles
  refine ⟨⟨launch.command, launch.task?, taken⟩, complete, rfl, rfl, ?_, ?_, rfl⟩
  · rw [dispatches, same]
  · rw [kept, completions]

/-- A complete turn is how its command starts and is waited for. -/
theorem Turn.Complete.start_settle {turn : Turn} (complete : turn.Complete)
    (dispatches : script.dispatches = .ok turn.task? :: later.dispatches)
    (completions : script.completions = turn.taken.map .ok ++ later.completions) :
    ∃ ready started, start Script.executor turn.command script = ⟨.ok turn.launch, ready, started⟩ ∧
      settle Script.executor turn.launch ready = ⟨.ok (), later, turn.waits⟩ ∧
      turn.events = started ++ turn.waits := by
  refine ⟨⟨later.dispatches, script.completions⟩,
    [.dispatch turn.command.words] ++ turn.launch.report, ?_, ?_, rfl⟩
  · exact start_eq_ok_iff.2 ⟨_, Script.dispatch_eq_ok_iff.2 ⟨dispatches, rfl, rfl⟩, rfl, rfl⟩
  · exact settle_script_eq_ok_iff.2 ⟨turn.taken, complete, rfl, completions, rfl⟩

/-- A run that returns is made of turns, one for each command in order. -/
theorem exists_turns_of_run {commands : List Command} {launches : List Launch}
    (ran : run Script.executor commands script = ⟨.ok launches, later, events⟩) :
    ∃ turns : List Turn,
      (∀ turn ∈ turns, turn.Complete) ∧
      turns.map (·.command) = commands ∧
      turns.map (·.launch) = launches ∧
      script.dispatches = turns.map (.ok ·.task?) ++ later.dispatches ∧
      script.completions = (turns.flatMap (·.taken)).map .ok ++ later.completions ∧
      events = turns.flatMap Turn.events := by
  induction commands generalizing script launches events with
  | nil =>
      obtain ⟨rfl, rfl, rfl⟩ := run_nil_eq_ok_iff.1 ran
      exact ⟨[], by simp⟩
  | cons command rest ih =>
      obtain ⟨launch, ready, waited, others, started, awaited, more, starts, settles, runs, rfl,
        rfl⟩ := run_cons_eq_ok_iff.1 ran
      obtain ⟨turn, complete, rfl, rfl, dispatches, completions, shown⟩ :=
        exists_turn starts settles
      obtain ⟨turns, allComplete, rfl, rfl, dispatches', completions', rfl⟩ := ih runs
      have complete' : ∀ other ∈ turn :: turns, other.Complete := by
        simpa using ⟨complete, allComplete⟩
      refine ⟨turn :: turns, complete', rfl, rfl, ?_, ?_, ?_⟩
      · simp [dispatches, dispatches']
      · simp [completions, completions']
      · rw [shown, List.flatMap_cons]

/-- Commands run as turns when the script begins with the answers of the turns. -/
theorem run_of_turns {turns : List Turn} (complete : ∀ turn ∈ turns, turn.Complete)
    (dispatches : script.dispatches = turns.map (.ok ·.task?) ++ later.dispatches)
    (completions : script.completions =
      (turns.flatMap (·.taken)).map .ok ++ later.completions) :
    run Script.executor (turns.map (·.command)) script =
      ⟨.ok (turns.map (·.launch)), later, turns.flatMap Turn.events⟩ := by
  induction turns generalizing script with
  | nil =>
      rcases script with ⟨_, _⟩
      rcases later with ⟨_, _⟩
      simp_all [run_nil_eq_ok_iff]
  | cons turn others ih =>
      rw [List.forall_mem_cons] at complete
      let waited : Script := ⟨others.map (.ok ·.task?) ++ later.dispatches,
        (others.flatMap (·.taken)).map .ok ++ later.completions⟩
      obtain ⟨ready, started, starts, settles, shown⟩ :=
        complete.1.start_settle
          (show script.dispatches = .ok turn.task? :: waited.dispatches from dispatches)
          (by simp [waited, completions])
      have runs : run Script.executor (others.map (·.command)) waited =
          ⟨.ok (others.map (·.launch)), later, others.flatMap Turn.events⟩ :=
        ih complete.2 rfl rfl
      rw [List.map_cons, run_cons_eq_ok_iff]
      exact ⟨turn.launch, ready, waited, others.map (·.launch), started, turn.waits,
        others.flatMap Turn.events, starts, settles, runs, rfl, by
          rw [List.flatMap_cons, shown]⟩

/-- A run on a script returns exactly when the script begins with the answers of complete turns, one
for each command in order. It consumes these answers, its launches are those of the turns, and
everything that happens in it is what happens in the turns, one after the other. -/
theorem run_eq_ok_iff_turns {commands : List Command} {launches : List Launch} :
    run Script.executor commands script = ⟨.ok launches, later, events⟩ ↔
      ∃ turns : List Turn,
        (∀ turn ∈ turns, turn.Complete) ∧
        turns.map (·.command) = commands ∧
        turns.map (·.launch) = launches ∧
        script.dispatches = turns.map (.ok ·.task?) ++ later.dispatches ∧
        script.completions = (turns.flatMap (·.taken)).map .ok ++ later.completions ∧
        events = turns.flatMap Turn.events ∧
        events.filter Event.isCall = turns.flatMap Turn.calls := by
  constructor
  · intro ran
    obtain ⟨turns, complete, commands, launches, dispatches, completions, rfl⟩ :=
      exists_turns_of_run ran
    exact ⟨turns, complete, commands, launches, dispatches, completions, rfl,
      Turn.filter_flatMap_events complete⟩
  · rintro ⟨turns, complete, rfl, rfl, dispatches, completions, rfl, _⟩
    exact run_of_turns complete dispatches completions

end Script

end Sequencer

end CommandShell
