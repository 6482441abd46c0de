import CommandShell.Proofs.Sequencer.Failing
import CommandShell.Proofs.Sequencer.Turns

/-!
Runs on a script that fail: complete turns and then a breakdown. `Broken.events_prefix` says that
nothing is lost of a run in which the failing request would have been answered: what happened up to
this request is how that run begins.
-/

namespace CommandShell

namespace Script

/-- One script after the other. -/
def append (first second : Script) : Script :=
  ⟨first.dispatches ++ second.dispatches, first.completions ++ second.completions⟩

/-- The next answer is a failure. Answers that ran out fail with their own name. -/
def Raises {Answer : Type} (name : String) (failure : Failure)
    (answers rest : List (Except Failure Answer)) : Prop :=
  answers = .error failure :: rest ∨ answers = [] ∧ rest = [] ∧ failure = .scriptEnded name

variable {script later : Script} {failure : Failure} {events : List Event}

theorem dispatch_eq_error_iff {words : List String} :
    executor.dispatch words script = ⟨.error failure, later, events⟩ ↔
      Raises "dispatch" failure script.dispatches later.dispatches ∧
        script.completions = later.completions ∧ events = [.dispatch words] := by
  rcases later with ⟨dispatches, others⟩
  rcases script with ⟨_ | ⟨answer, rest⟩, completions⟩
  · simp only [executor, dispatch, Raises, Outcome.mk.injEq, Except.error.injEq, mk.injEq]
    grind
  · simp [executor, dispatch, Raises, and_assoc, eq_comm]

theorem dispatch_events (words : List String) (script : Script) :
    (executor.dispatch words script).events = [.dispatch words] := by
  rcases script with ⟨_ | ⟨answer, rest⟩, completions⟩ <;> rfl

theorem waitAny_events (script : Script) : (executor.waitAny script).events = [.wait] := by
  rcases script with ⟨answers, _ | ⟨answer, rest⟩⟩ <;> rfl

theorem waitAny_eq_ok_iff {task : TaskId} :
    executor.waitAny script = ⟨.ok task, later, events⟩ ↔
      script.dispatches = later.dispatches ∧ script.completions = .ok task :: later.completions ∧
        events = [.wait] := by
  rcases later with ⟨dispatches, others⟩
  rcases script with ⟨answers, _ | ⟨answer, rest⟩⟩
  · simp [executor, waitAny]
  · simp only [executor, waitAny, Outcome.mk.injEq, mk.injEq]
    grind

theorem waitAny_eq_error_iff :
    executor.waitAny script = ⟨.error failure, later, events⟩ ↔
      script.dispatches = later.dispatches ∧
        Raises "wait_any" failure script.completions later.completions ∧ events = [.wait] := by
  rcases later with ⟨dispatches, others⟩
  rcases script with ⟨answers, _ | ⟨answer, rest⟩⟩
  · simp only [executor, waitAny, Raises, Outcome.mk.injEq, Except.error.injEq, mk.injEq]
    grind
  · simp only [executor, waitAny, Raises, Outcome.mk.injEq, mk.injEq]
    grind

end Script

namespace Sequencer

/-- Where a run on a script fails: at the dispatch of a command, or at a wait for its task after
other completions were taken. -/
inductive Breakdown where
  | dispatch (command : Command)
  | wait (command : Command) (task : TaskId) (taken : List TaskId)

namespace Breakdown

def command : Breakdown → Command
  | dispatch command => command
  | wait command _ _ => command

/-- Only a sequential command is waited for, and only until its own completion is taken. -/
def Possible : Breakdown → Prop
  | dispatch _ => True
  | wait command task taken => command.concurrent = false ∧ task ∉ taken

/-- The answers to the requests for the command before the one that fails. -/
def answered : Breakdown → Script
  | dispatch _ => ⟨[], []⟩
  | wait _ task taken => ⟨[.ok (some task)], taken.map .ok⟩

/-- The failing request finds a failure as its answer, and leaves what comes after it. -/
def Raises (failure : Failure) (left later : Script) : Breakdown → Prop
  | dispatch _ =>
      Script.Raises "dispatch" failure left.dispatches later.dispatches ∧
        left.completions = later.completions
  | wait _ _ _ =>
      left.dispatches = later.dispatches ∧
        Script.Raises "wait_any" failure left.completions later.completions

/-- What happens for the command up to the request that fails. The command is reported only if it
was started. -/
def events : Breakdown → List Event
  | dispatch command => [.dispatch command.words]
  | wait command task taken =>
      .dispatch command.words :: Launch.report ⟨command, some task⟩ ++
        taken.flatMap (taking task) ++ [.wait]

/-- The calls among the events of a breakdown. -/
def calls : Breakdown → List Event
  | dispatch command => [.dispatch command.words]
  | wait command task taken =>
      .dispatch command.words :: .started command.text task :: (taken.map fun _ => .wait) ++ [.wait]

theorem filter_events (breakdown : Breakdown) :
    breakdown.events.filter Event.isCall = breakdown.calls := by
  cases breakdown with
  | dispatch command => rfl
  | wait command task taken =>
      simp [events, calls, Launch.report, List.filter_cons, Event.isCall, Turn.filter_taking]

end Breakdown

section Script

variable {script later : Script} {command : Command} {failure : Failure} {events : List Event}

/-- A wait on a script fails when it took no completion of its own before the failure. -/
theorem waitFor_script_eq_error_iff {pending : TaskId} :
    waitFor Script.executor pending script = ⟨.error failure, later, events⟩ ↔
      ∃ (taken : List TaskId) (left : List (Except Failure TaskId)), pending ∉ taken ∧
        script.dispatches = later.dispatches ∧ script.completions = taken.map .ok ++ left ∧
        Script.Raises "wait_any" failure left later.completions ∧
        events = taken.flatMap (taking pending) ++ [.wait] := by
  -- The first answer decides: after it there is nothing left to take, or a wait on one answer less.
  induction script using waitFor_induction Script.executor pending generalizing events with
  | failed script refused waited told waits =>
      rw [waitFor_error waits]
      constructor
      · intro fails
        cases fails
        obtain ⟨same, raises, rfl⟩ := Script.waitAny_eq_error_iff.1 waits
        exact ⟨[], script.completions, List.not_mem_nil, same, rfl, raises, rfl⟩
      · rintro ⟨_ | ⟨got, others⟩, left, absent, same, completions, raises, rfl⟩
        · obtain rfl : script.completions = left := completions
          cases waits.symm.trans (Script.waitAny_eq_error_iff.2 ⟨same, raises, rfl⟩)
          rfl
        · cases waits.symm.trans (Script.waitAny_ok completions)
  | matched script waited told waits =>
      rw [waitFor_matched waits]
      constructor
      · intro fails
        cases fails
      · rintro ⟨_ | ⟨got, others⟩, left, absent, same, completions, raises, rfl⟩
        · obtain rfl : script.completions = left := completions
          cases waits.symm.trans (Script.waitAny_eq_error_iff.2 ⟨same, raises, rfl⟩)
        · cases waits.symm.trans (Script.waitAny_ok completions)
          exact absurd List.mem_cons_self absent
  | discarded script task waited told different waits ih =>
      rw [waitFor_discarded different waits, Outcome.after_eq_iff]
      constructor
      · rintro ⟨more, fails, rfl⟩
        obtain ⟨taken, left, absent, same, completions, raises, rfl⟩ := ih.1 fails
        obtain ⟨kept, first, rfl⟩ := Script.waitAny_eq_ok_iff.1 waits
        refine ⟨task :: taken, left, ?_, kept.trans same, ?_, raises, ?_⟩
        · simp [absent, Ne.symm different]
        · rw [first, completions, List.map_cons, List.cons_append]
        · simp [taking, different]
      · rintro ⟨_ | ⟨got, others⟩, left, absent, same, completions, raises, rfl⟩
        · obtain rfl : script.completions = left := completions
          cases waits.symm.trans (Script.waitAny_eq_error_iff.2 ⟨same, raises, rfl⟩)
        · cases waits.symm.trans (Script.waitAny_ok completions)
          have absent' : pending ∉ others := fun inside => absent (List.mem_cons_of_mem _ inside)
          refine ⟨_, ih.2 ⟨others, left, absent', same, rfl, raises, rfl⟩, ?_⟩
          simp [taking, different]

theorem start_answered (command : Command) (task : TaskId) (taken : List TaskId) (left : Script) :
    start Script.executor command ((Breakdown.wait command task taken).answered.append left) =
      ⟨.ok ⟨command, some task⟩, ⟨left.dispatches, taken.map .ok ++ left.completions⟩,
        .dispatch command.words :: Launch.report ⟨command, some task⟩⟩ :=
  start_eq_ok_iff.2 ⟨_, Script.dispatch_eq_ok_iff.2 ⟨rfl, rfl, rfl⟩, rfl, rfl⟩

/-- What fails for a command on a script is a breakdown. -/
theorem attend_script_eq_error_iff :
    attend Script.executor command script = ⟨.error failure, later, events⟩ ↔
      ∃ (breakdown : Breakdown) (left : Script), breakdown.command = command ∧
        breakdown.Possible ∧ script = breakdown.answered.append left ∧
        breakdown.Raises failure left later ∧ events = breakdown.events := by
  rw [attend_eq_error_iff]
  constructor
  · rintro (undispatched | ⟨launch, ready, started, awaited, starts, settles, rfl⟩)
    · obtain ⟨raises, same, rfl⟩ := Script.dispatch_eq_error_iff.1 undispatched
      exact ⟨.dispatch command, script, rfl, trivial, rfl, ⟨raises, same⟩, rfl⟩
    · obtain ⟨asked, dispatched, rfl, rfl⟩ := start_eq_ok_iff.1 starts
      obtain ⟨task, answer, sequential⟩ := exists_of_settle_error settles
      rw [settle_sequential answer sequential, waitFor_script_eq_error_iff] at settles
      obtain ⟨taken, left, absent, same, completions, raises, rfl⟩ := settles
      obtain ⟨dispatches, kept, rfl⟩ := Script.dispatch_eq_ok_iff.1 dispatched
      rcases launch with ⟨command, task?⟩
      obtain rfl : task? = some task := answer
      refine ⟨.wait command task taken, ⟨ready.dispatches, left⟩, rfl, ⟨sequential, absent⟩, ?_,
        ⟨same, raises⟩, ?_⟩
      · rcases script with ⟨_, _⟩
        simp_all [Breakdown.answered, Script.append]
      · simp [Breakdown.events]
  · rintro ⟨breakdown, left, rfl, possible, rfl, raises, rfl⟩
    cases breakdown with
    | dispatch command =>
        exact .inl (Script.dispatch_eq_error_iff.2 ⟨raises.1, raises.2, rfl⟩)
    | wait command task taken =>
        refine .inr ⟨_, _, _, taken.flatMap (taking task) ++ [.wait],
          start_answered command task taken left, ?_, by simp [Breakdown.events]⟩
        rw [settle_sequential rfl possible.1, waitFor_script_eq_error_iff]
        exact ⟨taken, left.completions, possible.2, raises.1, rfl, raises.2, rfl⟩

/-- The answers of turns, one after the other. -/
def Turn.answered (turns : List Turn) : Script :=
  ⟨turns.map (.ok ·.task?), (turns.flatMap (·.taken)).map .ok⟩

theorem run_turns {turns : List Turn} (complete : ∀ turn ∈ turns, turn.Complete) (left : Script) :
    run Script.executor (turns.map (·.command)) ((Turn.answered turns).append left) =
      ⟨.ok (turns.map (·.launch)), left, turns.flatMap Turn.events⟩ :=
  run_of_turns complete rfl rfl

/-- How a run on a script fails: it takes complete turns for the commands before one whose dispatch,
or some wait for which, finds a failure. The script begins with the answers to the requests before
that one. -/
structure Broken (commands : List Command) (script later : Script) (failure : Failure)
    (turns : List Turn) (breakdown : Breakdown) : Prop where
  complete : ∀ turn ∈ turns, turn.Complete
  possible : breakdown.Possible
  commands : turns.map (·.command) ++ [breakdown.command] <+: commands
  raises : ∃ left, script = (Turn.answered turns).append (breakdown.answered.append left) ∧
    breakdown.Raises failure left later

/-- A run on a script fails exactly when it breaks down, and what happened is what happened in the
turns and in the breakdown. -/
theorem run_script_eq_error_iff {commands : List Command} :
    run Script.executor commands script = ⟨.error failure, later, events⟩ ↔
      ∃ turns breakdown, Broken commands script later failure turns breakdown ∧
        events = turns.flatMap Turn.events ++ breakdown.events := by
  rw [run_eq_error_iff]
  constructor
  · rintro ⟨before, command, after, launches, middle, fore, told, rfl, ran, fails, rfl⟩
    obtain ⟨turns, complete, rfl, rfl, dispatches, completions, rfl⟩ := exists_turns_of_run ran
    obtain ⟨breakdown, left, rfl, possible, rfl, raises, rfl⟩ := attend_script_eq_error_iff.1 fails
    refine ⟨turns, breakdown, ⟨complete, possible, ⟨after, by simp⟩, left, ?_, raises⟩, rfl⟩
    rcases script with ⟨_, _⟩
    simp_all [Turn.answered, Script.append]
  · rintro ⟨turns, breakdown, ⟨complete, possible, ⟨after, rfl⟩, left, rfl, raises⟩, rfl⟩
    exact ⟨_, breakdown.command, after, _, _, _, breakdown.events, by simp, run_turns complete _,
      attend_script_eq_error_iff.2 ⟨breakdown, left, rfl, possible, rfl, raises, rfl⟩, rfl⟩

/-- A wait takes the completions before its own, whatever is answered after them. -/
theorem events_prefix_waitFor {pending : TaskId} {taken : List TaskId} (absent : pending ∉ taken)
    (more : Script) :
    taken.flatMap (taking pending) ++ [.wait] <+:
      (waitFor Script.executor pending
        ⟨more.dispatches, taken.map .ok ++ more.completions⟩).events := by
  induction taken with
  | nil =>
      have first : [.wait] <+: (waitFor Script.executor pending more).events := by
        rw [← Script.waitAny_events more]
        exact events_prefix_waitAny pending more
      exact first
  | cons got others ih =>
      rw [List.mem_cons, not_or] at absent
      have different : got ≠ pending := Ne.symm absent.1
      have waits : Script.executor.waitAny
          ⟨more.dispatches, (got :: others).map .ok ++ more.completions⟩ =
            ⟨.ok got, ⟨more.dispatches, others.map .ok ++ more.completions⟩, [.wait]⟩ := rfl
      have head : taking pending got = [.wait] ++ [.log .main (.waitDiscarded pending got)] := by
        simp [taking, different]
      rw [waitFor_discarded different waits, Outcome.after, List.flatMap_cons, List.append_assoc,
        head]
      exact (List.prefix_append_right_inj _).2 (ih absent.2)

/-- Until its failing request a breakdown goes like any run that gets the same answers. -/
theorem Breakdown.Possible.events_prefix_attend {breakdown : Breakdown}
    (possible : breakdown.Possible) (more : Script) :
    breakdown.events <+:
      (attend Script.executor breakdown.command (breakdown.answered.append more)).events := by
  cases breakdown with
  | dispatch command =>
      have asked : [.dispatch command.words] <+:
          (start Script.executor command more).events := by
        rw [← Script.dispatch_events command.words more]
        exact Step.events_prefix_bind _ _ _
      exact asked.trans (Step.events_prefix_bind _ _ _)
  | wait command task taken =>
      have waits := events_prefix_waitFor possible.2 more
      rw [Breakdown.command, attend, Step.bind_ok (start_answered command task taken more),
        settle_sequential rfl possible.1, Breakdown.events, List.append_assoc]
      exact (List.prefix_append_right_inj _).2 waits

/-- What happens in a run that fails is how every run begins whose script has the same answers up to
the request that fails, whatever this request and those after it are answered. -/
theorem Broken.events_prefix {commands : List Command} {turns : List Turn} {breakdown : Breakdown}
    (broken : Broken commands script later failure turns breakdown) (more : Script) :
    turns.flatMap Turn.events ++ breakdown.events <+:
      (run Script.executor commands
        ((Turn.answered turns).append (breakdown.answered.append more))).events := by
  obtain ⟨after, rfl⟩ := broken.commands
  have next := broken.possible.events_prefix_attend more
  rw [List.append_assoc, List.singleton_append]
  exact ((List.prefix_append_right_inj _).2 next).trans
    (events_prefix_run (run_turns broken.complete _))

end Script

end Sequencer

end CommandShell
