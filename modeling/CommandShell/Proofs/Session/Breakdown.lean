import CommandShell.Proofs.Sequencer.Breakdown
import CommandShell.Proofs.Session.Rounds

/-!
Sessions that fail. `run_eq_error_iff` says how a session on a script goes that fails: it runs lines
to their end and counts them, and then it cannot read a line or the run of the next line fails. It
says no farewell, and its counter is where it goes on when it is asked again.
-/

namespace CommandShell

theorem LineScript.read_eq_error_iff {prompt : String} {script later : LineScript}
    {failure : Failure} {events : List Event} :
    source.read prompt script = ⟨.error failure, later, events⟩ ↔
      Script.Raises "read_line" failure script.lines later.lines ∧ events = [.prompt prompt] := by
  rcases later with ⟨others⟩
  rcases script with ⟨_ | ⟨answer, rest⟩⟩
  · simp only [source, read, Script.Raises, Outcome.mk.injEq, Except.error.injEq, mk.injEq]
    grind
  · simp [source, read, Script.Raises, and_assoc, eq_comm]

theorem LineScript.read_eq_ok_iff {prompt : String} {script later : LineScript}
    {line? : Option String} {events : List Event} :
    source.read prompt script = ⟨.ok line?, later, events⟩ ↔
      script.lines = .ok line? :: later.lines ∧ events = [.prompt prompt] := by
  rcases later with ⟨others⟩
  rcases script with ⟨_ | ⟨answer, rest⟩⟩
  · simp [source, read]
  · simp [source, read, and_assoc, eq_comm]

theorem LineScript.read_events (prompt : String) (script : LineScript) :
    (source.read prompt script).events = [.prompt prompt] := by
  rcases script with ⟨_ | ⟨answer, rest⟩⟩ <;> rfl

namespace Session

variable {Tasks : Type} {executor : Executor Tasks} {session later : Session LineScript Tasks}
  {failure : Failure} {events told : List Event} {lines : List String}
  {rest : List (Except Failure (Option String))}

/-- How a session on a script fails at its next line: no line can be read, or the run of the line
fails. The counter stays as it is. -/
inductive Fails (executor : Executor Tasks) (failure : Failure) :
    Session LineScript Tasks → Session LineScript Tasks → List Event → Prop
  | unread {counter : Int} {answers rest : List (Except Failure (Option String))} {tasks : Tasks}
      (raises : Script.Raises "read_line" failure answers rest) :
      Fails executor failure ⟨counter, ⟨answers⟩, tasks⟩ ⟨counter, ⟨rest⟩, tasks⟩ []
  | broken {counter : Int} {line : String} {rest : List (Except Failure (Option String))}
      {tasks left : Tasks} {told : List Event} (stays : isExit line = false)
      (failed : Sequencer.run executor (Command.ofLine line) tasks = ⟨.error failure, left, told⟩) :
      Fails executor failure ⟨counter, ⟨.ok (some line) :: rest⟩, tasks⟩
        ⟨counter, ⟨rest⟩, left⟩ told

theorem Fails.counter (fails : Fails executor failure session later told) :
    later.counter = session.counter := by
  cases fails with
  | unread raises => rfl
  | broken stays failed => rfl

theorem Fails.loop_eq (fails : Fails executor failure session later told) :
    loop LineScript.source executor session =
      ⟨.error failure, later, .prompt (promptText session.counter) :: told⟩ := by
  cases fails with
  | unread raises => exact loop_unread (LineScript.read_eq_error_iff.2 ⟨raises, rfl⟩)
  | broken stays failed => exact loop_script_failed stays rfl failed

/-- A session after lines that were run to their end, with the rest of its script. -/
def passed (executor : Executor Tasks) (session : Session LineScript Tasks) (lines : List String)
    (rest : List (Except Failure (Option String))) : Session LineScript Tasks :=
  ⟨session.counter + lines.length, ⟨rest⟩,
    Sequencer.afterLines executor (lines.map Command.ofLine) session.tasks⟩

theorem passed_nil (executor : Executor Tasks) (session : Session LineScript Tasks)
    (rest : List (Except Failure (Option String))) :
    passed executor session [] rest = { session with lines := ⟨rest⟩ } := by
  simp [passed, Sequencer.afterLines]

theorem passed_cons {line : String} {launches : List Launch} {tasks : Tasks}
    (ran : Sequencer.run executor (Command.ofLine line) session.tasks =
      ⟨.ok launches, tasks, told⟩) :
    passed executor session (line :: lines) rest =
      passed executor ⟨session.counter + 1, session.lines, tasks⟩ lines rest := by
  have counted : session.counter + ((line :: lines).length : Nat) =
      session.counter + 1 + lines.length := by
    rw [List.length_cons]
    omega
  simp only [passed, counted, Sequencer.afterLines, List.map_cons, List.foldl_cons, ran]

/-- Lines that are run to their end come one after the other, and the session goes on after them. -/
theorem loop_passed
    (script : session.lines.lines = lines.map (fun line => .ok (some line)) ++ rest)
    (stays : ∀ line ∈ lines, isExit line = false)
    (all : completed executor lines session.tasks = lines) :
    loop LineScript.source executor session =
      (loop LineScript.source executor (passed executor session lines rest)).after
        (transcript executor session.counter lines session.tasks) := by
  induction lines generalizing session with
  | nil =>
      rcases session with ⟨counter, ⟨answers⟩, tasks⟩
      obtain rfl : answers = rest := script
      simp [passed, transcript, Sequencer.afterLines]
  | cons line lines ih =>
      have stays' := stays line List.mem_cons_self
      rcases ran : Sequencer.run executor (Command.ofLine line) session.tasks with
        ⟨failure | launches, tasks, told⟩
      · rw [completed_cons_error ran] at all
        cases all
      · rw [completed_cons_ok ran, List.cons_eq_cons] at all
        have script' : session.lines.lines =
            .ok (some line) :: (lines.map (fun line => .ok (some line)) ++ rest) := script
        have next := @ih ⟨session.counter + 1, ⟨_⟩, tasks⟩ rfl
          (fun other inside => stays other (List.mem_cons_of_mem _ inside)) all.2
        rw [loop_script_continued stays' script' ran, next, passed_cons ran, transcript, ran]
        simp [Outcome.after, passed]

/-- How a session on a script fails: its first lines are run to their end, and it fails at the next
one. -/
structure Broken (executor : Executor Tasks) (session later : Session LineScript Tasks)
    (failure : Failure) (events : List Event) (lines : List String) : Prop where
  stays : ∀ line ∈ lines, isExit line = false
  completed : completed executor lines session.tasks = lines
  fails : ∃ rest told,
    session.lines.lines = lines.map (fun line => .ok (some line)) ++ rest ∧
      Fails executor failure (passed executor session lines rest) later told ∧
      events = .log .main .sessionStarted ::
        transcript executor session.counter lines session.tasks ++
          .prompt (promptText later.counter) :: told

theorem Broken.counter (broken : Broken executor session later failure events lines) :
    later.counter = session.counter + lines.length := by
  obtain ⟨rest, told, _, fails, _⟩ := broken.fails
  exact fails.counter

/-- A loop that fails ran its first lines to their end, and fails at the next one. -/
theorem exists_fails_of_loop
    (failed : loop LineScript.source executor session = ⟨.error failure, later, events⟩) :
    ∃ lines rest told, session.lines.lines = lines.map (fun line => .ok (some line)) ++ rest ∧
      (∀ line ∈ lines, isExit line = false) ∧
      completed executor lines session.tasks = lines ∧
      Fails executor failure (passed executor session lines rest) later told := by
  induction session using loop_induction LineScript.source executor generalizing events with
  | unread session refused answers told reading =>
      rw [loop_unread reading] at failed
      cases failed
      obtain ⟨raises, _⟩ := LineScript.read_eq_error_iff.1 reading
      refine ⟨[], session.lines.lines, [], rfl, by simp, rfl, ?_⟩
      rw [passed_nil]
      exact .unread raises
  | ended session line? answers told ends reading =>
      rw [loop_ended ends reading] at failed
      cases failed
  | failed session line answers told refused after more stays reading running =>
      rw [loop_failed stays reading running] at failed
      cases failed
      obtain ⟨script, _⟩ := LineScript.read_eq_ok_iff.1 reading
      obtain ⟨ran, whole⟩ := runLine_eq_error_iff.1 running
      refine ⟨[], _, more, script, by simp, rfl, ?_⟩
      rw [passed_nil, whole]
      exact .broken stays ran
  | continued session line answers told launches after more stays reading running ih =>
      rw [loop_continued stays reading running, Outcome.after_eq_iff] at failed
      obtain ⟨others, failed, rfl⟩ := failed
      obtain ⟨script, _⟩ := LineScript.read_eq_ok_iff.1 reading
      obtain ⟨tasks, ran, rfl⟩ := runLine_eq_ok_iff.1 running
      obtain ⟨lines, rest, told', script', stays', all, fails⟩ := ih failed
      refine ⟨line :: lines, rest, told', ?_, ?_, ?_, ?_⟩
      · rw [script, script', List.map_cons, List.cons_append]
      · simpa using ⟨stays, stays'⟩
      · rw [completed_cons_ok ran, all]
      · have ran' : Sequencer.run executor (Command.ofLine line) session.tasks =
            ⟨.ok launches, tasks, more⟩ := ran
        rw [passed_cons ran']
        exact fails

/-- A session on a script fails exactly when it runs some lines to their end and fails at the next
one. -/
theorem run_eq_error_iff :
    run LineScript.source executor session = ⟨.error failure, later, events⟩ ↔
      ∃ lines, Broken executor session later failure events lines := by
  rw [run, Outcome.after_eq_iff]
  constructor
  · rintro ⟨talk, failed, rfl⟩
    obtain ⟨lines, rest, told, script, stays, all, fails⟩ := exists_fails_of_loop failed
    refine ⟨lines, stays, all, rest, told, script, fails, ?_⟩
    rw [loop_passed script stays all, fails.loop_eq, Outcome.after] at failed
    cases failed
    rw [fails.counter, List.singleton_append, List.cons_append]
  · rintro ⟨lines, stays, all, rest, told, script, fails, rfl⟩
    refine ⟨_, ?_, rfl⟩
    rw [loop_passed script stays all, fails.loop_eq, fails.counter]
    rfl

theorem Broken.not_closed (inner : ∀ commands, (Sequencer.run executor commands).Emits Inner)
    (broken : Broken executor session later failure events lines) : Event.closed ∉ events := by
  have fails := run_eq_error_iff.2 ⟨lines, broken⟩
  rw [run, Outcome.after_eq_iff] at fails
  obtain ⟨told, goes, rfl⟩ := fails
  have runs (commands : List Command) : (Sequencer.run executor commands).Emits (· ≠ .closed) :=
    fun tasks event inside => (inner commands tasks event inside).2
  have reads (prompt : String) : (LineScript.source.read prompt).Emits (· ≠ .closed) := by
    intro script event inside
    rw [LineScript.read_events, List.mem_singleton] at inside
    simp [inside]
  simp [not_closed_of_loop reads runs goes]

/-- The first thing a loop on a script does is to prompt with the counter. -/
theorem exists_loop_events (executor : Executor Tasks) (session : Session LineScript Tasks) :
    ∃ told, (loop LineScript.source executor session).events =
      .prompt (promptText session.counter) :: told := by
  cases session using loop_induction LineScript.source executor with
  | unread session refused answers told reading =>
      obtain ⟨_, rfl⟩ := LineScript.read_eq_error_iff.1 reading
      exact ⟨[], by rw [loop_unread reading]⟩
  | ended session line? answers told ends reading =>
      obtain ⟨_, rfl⟩ := LineScript.read_eq_ok_iff.1 reading
      exact ⟨farewell line?, by rw [loop_ended ends reading]; rfl⟩
  | failed session line answers told refused after more stays reading running =>
      obtain ⟨_, rfl⟩ := LineScript.read_eq_ok_iff.1 reading
      exact ⟨more, by rw [loop_failed stays reading running]; rfl⟩
  | continued session line answers told launches after more stays reading running _ =>
      obtain ⟨_, rfl⟩ := LineScript.read_eq_ok_iff.1 reading
      exact ⟨more ++ (loop LineScript.source executor after).events,
        by rw [loop_continued stays reading running]; rfl⟩

/-- A line fails exactly when its run breaks down at a request, with the failure of that request.
Until then everything happens as if the request were answered, and the line is not counted. A
session that fails does so after lines that were run to their end, which its counter counts. It
says no farewell, and whatever is asked of it afterwards, its next prompt shows the counter. -/
theorem broken_of_failure :
    (∀ {Lines : Type} (line : String) (session later : Session Lines Script) (failure : Failure)
      (events : List Event),
        runLine Script.executor line session = ⟨.error failure, later, events⟩ ↔
          ∃ turns breakdown,
            Sequencer.Broken (Command.ofLine line) session.tasks later.tasks failure turns
              breakdown ∧
            later = { session with tasks := later.tasks } ∧
            events = turns.flatMap Sequencer.Turn.events ++ breakdown.events ∧
            events.filter Event.isCall = turns.flatMap Sequencer.Turn.calls ++ breakdown.calls) ∧
    (∀ {Lines : Type} (line : String) (session later : Session Lines Script) (failure : Failure)
      (turns : List Sequencer.Turn) (breakdown : Sequencer.Breakdown),
        Sequencer.Broken (Command.ofLine line) session.tasks later.tasks failure turns breakdown →
          ∀ more : Script, turns.flatMap Sequencer.Turn.events ++ breakdown.events <+:
            (runLine Script.executor line { session with
              tasks := (Sequencer.Turn.answered turns).append
                (breakdown.answered.append more) }).events) ∧
    (∀ (session later : Session LineScript Script) (failure : Failure) (events : List Event),
      run LineScript.source Script.executor session = ⟨.error failure, later, events⟩ ↔
        ∃ lines, Broken Script.executor session later failure events lines) ∧
    ∀ (session later : Session LineScript Script) (failure : Failure) (events : List Event)
      (lines : List String), Broken Script.executor session later failure events lines →
        later.counter = session.counter + lines.length ∧ .closed ∉ events ∧
          ∀ calls : List Call,
            let number := later.counter + (processedBy Script.executor later calls).length
            ∃ told, (run LineScript.source Script.executor
                (performAll Script.executor later calls)).events =
              .log .main .sessionStarted :: .prompt (promptText number) :: told := by
  refine ⟨?_, ?_, fun session later failure events => run_eq_error_iff, ?_⟩
  · intro Lines line session later failure events
    rw [runLine_eq_error_iff, Sequencer.run_script_eq_error_iff]
    constructor
    · rintro ⟨⟨turns, breakdown, broken, rfl⟩, kept⟩
      refine ⟨turns, breakdown, broken, kept, rfl, ?_⟩
      rw [List.filter_append, Sequencer.Turn.filter_flatMap_events broken.complete,
        breakdown.filter_events]
    · rintro ⟨turns, breakdown, broken, kept, whole, _⟩
      exact ⟨⟨turns, breakdown, broken, whole⟩, kept⟩
  · intro Lines line session later failure turns breakdown broken more
    rw [runLine_events]
    exact broken.events_prefix more
  · intro session later failure events lines broken
    refine ⟨broken.counter, broken.not_closed run_script_inner, ?_⟩
    intro calls number
    obtain ⟨told, begins⟩ :=
      exists_loop_events Script.executor (performAll Script.executor later calls)
    refine ⟨told, ?_⟩
    rw [run, Outcome.after, begins, performAll_counter]
    rfl

/-- The second command of a line waits, takes the completion of the first one, and the next wait
fails. A session that fails at its third line goes on with the third number. -/
theorem broken_wait_and_session :
    (∃ later, runLine Script.executor "x& y; z" (⟨4, (), ⟨[.ok (some 1), .ok (some 2), .ok none],
        [.ok 1, .error (.foreign "RuntimeError" "boom"), .ok 2]⟩⟩ : Session Unit Script) =
          ⟨.error (.foreign "RuntimeError" "boom"), later,
            [.dispatch ["x"], .log .main (.commandStarted 1 true "x"), .started "x" 1,
              .dispatch ["y"], .log .main (.commandStarted 2 false "y"), .started "y" 2,
              .wait, .log .main (.waitDiscarded 2 1), .wait]⟩ ∧
        later.counter = 4) ∧
    ∃ later events, run LineScript.source Script.executor
        ⟨1, ⟨[.ok (some ""), .ok (some " "), .error (.interrupted ""), .ok none]⟩, ⟨[], []⟩⟩ =
          ⟨.error (.interrupted ""), later, events⟩ ∧
      later.counter = 3 ∧ .closed ∉ events ∧
      ∃ told, (run LineScript.source Script.executor later).events =
        .log .main .sessionStarted :: .prompt "shell[3]% " :: told := by
  constructor
  · have broken : Sequencer.Broken (Command.ofLine "x& y; z")
        ⟨[.ok (some 1), .ok (some 2), .ok none],
          [.ok 1, .error (.foreign "RuntimeError" "boom"), .ok 2]⟩
        ⟨[.ok none], [.ok 2]⟩ (.foreign "RuntimeError" "boom")
        [⟨⟨"x", ["x"], true⟩, some 1, []⟩] (.wait ⟨"y", ["y"], false⟩ 2 [1]) := by
      constructor
      case complete => simp [Sequencer.Turn.Complete]
      case possible => exact ⟨rfl, by decide⟩
      case commands => decide
      case raises => exact ⟨⟨[.ok none], [.error _, .ok 2]⟩, rfl, rfl, .inl rfl⟩
    exact ⟨⟨4, (), ⟨[.ok none], [.ok 2]⟩⟩,
      (broken_of_failure.1 _ _ _ _ _).2 ⟨_, _, broken, rfl, rfl, by decide⟩, rfl⟩
  · have broken : Broken Script.executor
        ⟨1, ⟨[.ok (some ""), .ok (some " "), .error (.interrupted ""), .ok none]⟩, ⟨[], []⟩⟩
        ⟨3, ⟨[.ok none]⟩, ⟨[], []⟩⟩ (.interrupted "")
        [.log .main .sessionStarted, .prompt "shell[1]% ", .prompt "shell[2]% ",
          .prompt "shell[3]% "] ["", " "] := by
      constructor
      case stays => decide
      case completed => decide
      case fails => exact ⟨_, [], rfl, .unread (.inl rfl), by decide⟩
    have proper := broken_of_failure.2.2.2 _ _ _ _ _ broken
    exact ⟨_, _, (broken_of_failure.2.2.1 _ _ _ _).2 ⟨_, broken⟩, proper.1, proper.2.1,
      proper.2.2 []⟩

end Session

end CommandShell
