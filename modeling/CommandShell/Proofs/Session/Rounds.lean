import CommandShell.Proofs.Sequencer.Invariant
import CommandShell.Proofs.Session.Loop

/-!
Sessions on scripts of lines. `run_eq_ok_iff` says how a session goes that returns: it prompts for
every line, runs the lines before the first one that ends it, and says farewell.
`performAll_counter` says that the counter counts the lines that were run to their end, whatever
else happens to the session.
-/

namespace CommandShell.Session

variable {Tasks : Type} {executor : Executor Tasks}

/-- The lines that are run to their end when lines are run one after the other. The first failure
stops them. -/
def completed (executor : Executor Tasks) : List String → Tasks → List String
  | [], _ => []
  | line :: rest, tasks =>
      match Sequencer.run executor (Command.ofLine line) tasks with
      | ⟨.ok _, later, _⟩ => line :: completed executor rest later
      | ⟨.error _, _, _⟩ => []

/-- What happens when lines are run one after the other, each after its prompt. -/
def transcript (executor : Executor Tasks) (counter : Int) : List String → Tasks → List Event
  | [], _ => []
  | line :: rest, tasks =>
      let outcome := Sequencer.run executor (Command.ofLine line) tasks
      .prompt (promptText counter) :: outcome.events ++
        transcript executor (counter + 1) rest outcome.state

section Completed

variable {tasks later : Tasks} {line : String} {rest : List String} {events : List Event}

theorem completed_cons_ok {launches : List Launch}
    (ran : Sequencer.run executor (Command.ofLine line) tasks = ⟨.ok launches, later, events⟩) :
    completed executor (line :: rest) tasks = line :: completed executor rest later := by
  rw [completed, ran]

theorem completed_cons_error {failure : Failure}
    (ran : Sequencer.run executor (Command.ofLine line) tasks = ⟨.error failure, later, events⟩) :
    completed executor (line :: rest) tasks = [] := by
  rw [completed, ran]

end Completed

section Script

variable {session later : Session LineScript Tasks} {lines : List String} {last? : Option String}
  {line : String} {rest : List (Except Failure (Option String))} {events more : List Event}
  {tasks : Tasks}

theorem read_script {answer : Except Failure (Option String)}
    (next : session.lines.lines = answer :: rest) :
    LineScript.source.read (promptText session.counter) session.lines =
      ⟨answer, ⟨rest⟩, [.prompt (promptText session.counter)]⟩ := by
  simp [LineScript.source, LineScript.read, next]

theorem read_script_nil (next : session.lines.lines = []) :
    LineScript.source.read (promptText session.counter) session.lines =
      ⟨.error (.scriptEnded "read_line"), session.lines,
        [.prompt (promptText session.counter)]⟩ := by
  simp [LineScript.source, LineScript.read, next]

theorem loop_script_failed {failure : Failure} (stays : isExit line = false)
    (next : session.lines.lines = .ok (some line) :: rest)
    (ran : Sequencer.run executor (Command.ofLine line) session.tasks =
      ⟨.error failure, tasks, more⟩) :
    loop LineScript.source executor session = ⟨.error failure, ⟨session.counter, ⟨rest⟩, tasks⟩,
      .prompt (promptText session.counter) :: more⟩ := by
  have running :
      runLine executor line (Session.mk session.counter (LineScript.mk rest) session.tasks) =
        ⟨.error failure, ⟨session.counter, ⟨rest⟩, tasks⟩, more⟩ := by simp [runLine, ran]
  exact loop_failed stays (read_script next) running

theorem loop_script_continued {launches : List Launch} (stays : isExit line = false)
    (next : session.lines.lines = .ok (some line) :: rest)
    (ran : Sequencer.run executor (Command.ofLine line) session.tasks =
      ⟨.ok launches, tasks, more⟩) :
    loop LineScript.source executor session =
      (loop LineScript.source executor ⟨session.counter + 1, ⟨rest⟩, tasks⟩).after
        (.prompt (promptText session.counter) :: more) := by
  have running :
      runLine executor line (Session.mk session.counter (LineScript.mk rest) session.tasks) =
        ⟨.ok launches, ⟨session.counter + 1, ⟨rest⟩, tasks⟩, more⟩ := by simp [runLine, ran]
  exact loop_continued stays (read_script next) running

/-- A session whose script has an end returns exactly when every line before it is run to its
end. -/
theorem loop_script_eq_ok_iff
    (script : session.lines.lines = lines.map (fun line => .ok (some line)) ++ .ok last? :: rest)
    (stays : ∀ line ∈ lines, isExit line = false) (ends : Ends last?) :
    loop LineScript.source executor session = ⟨.ok (), later, events⟩ ↔
      completed executor lines session.tasks = lines ∧
        later = ⟨session.counter + lines.length, ⟨rest⟩,
          Sequencer.afterLines executor (lines.map Command.ofLine) session.tasks⟩ ∧
        events = transcript executor session.counter lines session.tasks ++
          .prompt (promptText (session.counter + lines.length)) :: farewell last? := by
  induction lines generalizing session events with
  | nil =>
      rw [loop_ended ends (read_script script)]
      simp [completed, transcript, Sequencer.afterLines, eq_comm]
  | cons line lines ih =>
      have stays' := stays line List.mem_cons_self
      rcases ran : Sequencer.run executor (Command.ofLine line) session.tasks with
        ⟨failure | launches, tasks, more⟩
      · rw [loop_script_failed stays' script ran, completed_cons_error ran]
        simp
      -- The rest of the session starts with one line more counted and the tasks that the line left.
      · have next := fun events => @ih ⟨session.counter + 1, ⟨_⟩, tasks⟩ events rfl
          fun other inside => stays other (List.mem_cons_of_mem _ inside)
        have counter : session.counter + ((line :: lines).length : Nat) =
            session.counter + 1 + lines.length := by
          rw [List.length_cons]
          omega
        have told : transcript executor session.counter (line :: lines) session.tasks =
            .prompt (promptText session.counter) :: more ++
              transcript executor (session.counter + 1) lines tasks := by
          rw [transcript, ran]
        have left : Sequencer.afterLines executor ((line :: lines).map Command.ofLine)
            session.tasks = Sequencer.afterLines executor (lines.map Command.ofLine) tasks := by
          rw [Sequencer.afterLines, List.map_cons, List.foldl_cons, ran]
          rfl
        rw [loop_script_continued stays' script ran, Outcome.after_eq_iff, completed_cons_ok ran,
          counter, told, left, List.cons_eq_cons, List.append_assoc]
        constructor
        · rintro ⟨second, goes, rfl⟩
          obtain ⟨all, rfl, rfl⟩ := (next second).1 goes
          exact ⟨⟨rfl, all⟩, rfl, rfl⟩
        · rintro ⟨⟨_, all⟩, rfl, rfl⟩
          exact ⟨_, (next _).2 ⟨all, rfl, rfl⟩, rfl⟩

/-- The script of a session that returns has an end. -/
theorem exists_script_of_loop
    (returned : (loop LineScript.source executor session).answer = .ok ()) :
    ∃ (lines : List String) (last? : Option String) (rest : List (Except Failure (Option String))),
      session.lines.lines = lines.map (fun line => .ok (some line)) ++ .ok last? :: rest ∧
        (∀ line ∈ lines, isExit line = false) ∧ Ends last? := by
  induction next : session.lines.lines generalizing session with
  | nil =>
      rw [loop_unread (read_script_nil next)] at returned
      cases returned
  | cons answer rest ih =>
      rcases answer with failure | last?
      · rw [loop_unread (read_script next)] at returned
        cases returned
      · by_cases ends : Ends last?
        · exact ⟨[], last?, rest, rfl, by simp, ends⟩
        · obtain ⟨line, rfl, stays⟩ := exists_of_not_ends ends
          rcases ran : Sequencer.run executor (Command.ofLine line) session.tasks with
            ⟨failure | launches, tasks, more⟩
          · rw [loop_script_failed stays next ran] at returned
            cases returned
          · rw [loop_script_continued stays next ran] at returned
            obtain ⟨lines, last?, rest', script, stays', ends'⟩ := ih returned rfl
            refine ⟨line :: lines, last?, rest', ?_, ?_, ends'⟩
            · rw [script, List.map_cons, List.cons_append]
            · simpa using ⟨stays, stays'⟩

/-- How a session goes that returns: its lines are run, and then the last answer of its script ends
it. -/
structure Visited (executor : Executor Tasks) (session later : Session LineScript Tasks)
    (events : List Event) (lines : List String) (last? : Option String) : Prop where
  script : session.lines.lines =
    lines.map (fun line => .ok (some line)) ++ .ok last? :: later.lines.lines
  stays : ∀ line ∈ lines, isExit line = false
  ends : Ends last?
  completed : completed executor lines session.tasks = lines
  counter : later.counter = session.counter + lines.length
  tasks : later.tasks =
    Sequencer.afterLines executor (lines.map Command.ofLine) session.tasks
  events : events = .log .main .sessionStarted ::
    transcript executor session.counter lines session.tasks ++
      .prompt (promptText later.counter) :: farewell last?

theorem run_eq_ok_iff_loop {source : LineSource LineScript} :
    run source executor session = ⟨.ok (), later, events⟩ ↔
      ∃ told, loop source executor session = ⟨.ok (), later, told⟩ ∧
        events = .log .main .sessionStarted :: told :=
  Outcome.after_eq_iff

/-- A session on a script returns exactly when it visits some lines and an end. -/
theorem run_eq_ok_iff :
    run LineScript.source executor session = ⟨.ok (), later, events⟩ ↔
      ∃ lines last?, Visited executor session later events lines last? := by
  rw [run_eq_ok_iff_loop]
  constructor
  · rintro ⟨told, goes, rfl⟩
    obtain ⟨lines, last?, rest, script, stays, ends⟩ :=
      exists_script_of_loop (congrArg Outcome.answer goes)
    obtain ⟨all, rfl, rfl⟩ := (loop_script_eq_ok_iff script stays ends).1 goes
    exact ⟨lines, last?, script, stays, ends, all, rfl, rfl, rfl⟩
  · rintro ⟨lines, last?, visited⟩
    rcases later with ⟨counter, ⟨rest⟩, tasks⟩
    obtain rfl : counter = _ := visited.counter
    obtain rfl : tasks = _ := visited.tasks
    refine ⟨_, (loop_script_eq_ok_iff visited.script visited.stays visited.ends).2
      ⟨visited.completed, rfl, rfl⟩, ?_⟩
    rw [visited.events, List.cons_append]

/-- What happens before the farewell does not depend on what ends the session. -/
theorem run_script_eq_ok_iff
    (script : session.lines.lines = lines.map (fun line => .ok (some line)) ++ .ok last? :: rest)
    (stays : ∀ line ∈ lines, isExit line = false) (ends : Ends last?) :
    run LineScript.source executor session = ⟨.ok (), later, events ++ farewell last?⟩ ↔
      completed executor lines session.tasks = lines ∧
        later = ⟨session.counter + lines.length, ⟨rest⟩,
          Sequencer.afterLines executor (lines.map Command.ofLine) session.tasks⟩ ∧
        events = .log .main .sessionStarted ::
          transcript executor session.counter lines session.tasks ++
            [.prompt (promptText (session.counter + lines.length))] := by
  rw [run_eq_ok_iff_loop]
  constructor
  · rintro ⟨told, goes, whole⟩
    obtain ⟨all, rfl, rfl⟩ := (loop_script_eq_ok_iff script stays ends).1 goes
    refine ⟨all, rfl, ?_⟩
    rw [← List.append_cancel_right_eq events (farewell last?), whole, List.cons_append,
      List.cons_append, List.append_assoc, List.singleton_append]
  · rintro ⟨all, rfl, rfl⟩
    exact ⟨_, (loop_script_eq_ok_iff script stays ends).2 ⟨all, rfl, rfl⟩, by simp⟩

end Script

section Talk

/-- The text of a prompt. -/
def prompt? : Event → Option String
  | .prompt text => some text
  | _ => none

/-- Neither a prompt nor the end of a session. -/
def Inner (event : Event) : Prop := prompt? event = none ∧ event ≠ .closed

theorem inner_remarks : Sequencer.Remarks Inner := by
  constructor
  · rintro ⟨command, _ | task⟩ <;> simp [Launch.report, Inner, prompt?]
  · simp [Inner, prompt?]
  · simp [Inner, prompt?]

/-- Running commands on a script neither prompts nor ends the session. -/
theorem run_script_inner (commands : List Command) :
    (Sequencer.run Script.executor commands).Emits Inner := by
  apply Sequencer.run_emits inner_remarks
  · rintro command - ⟨_ | ⟨answer, rest⟩, completions⟩ <;>
      simp [Script.executor, Script.dispatch, Inner, prompt?]
  · rintro ⟨dispatches, _ | ⟨answer, rest⟩⟩ <;>
      simp [Script.executor, Script.waitAny, Inner, prompt?]

variable {tasks : Tasks}

theorem filterMap_of_inner {events : List Event} (inner : ∀ event ∈ events, Inner event) :
    events.filterMap prompt? = [] :=
  List.filterMap_eq_nil_iff.2 fun event inside => (inner event inside).1

theorem transcript_prompts
    (inner : ∀ commands, (Sequencer.run executor commands).Emits Inner) (counter : Int)
    (lines : List String) :
    (transcript executor counter lines tasks).filterMap prompt? =
      (List.range lines.length).map fun index : Nat => promptText (counter + index) := by
  induction lines generalizing counter tasks with
  | nil => rfl
  | cons line rest ih =>
      have silent := filterMap_of_inner (inner (Command.ofLine line) tasks)
      have later : ∀ index : Nat, counter + 1 + (index : Int) = counter + (index + 1 : Nat) := by
        intro index
        omega
      rw [transcript, List.filterMap_append, List.filterMap_cons, silent, ih, List.length_cons,
        List.range_succ_eq_map, List.map_cons, List.map_map]
      simp [prompt?, later, Function.comp_def]

theorem not_mem_transcript
    (inner : ∀ commands, (Sequencer.run executor commands).Emits Inner) (counter : Int)
    (lines : List String) : Event.closed ∉ transcript executor counter lines tasks := by
  induction lines generalizing counter tasks with
  | nil => exact List.not_mem_nil
  | cons line rest ih =>
      rw [transcript, List.cons_append, List.mem_cons, List.mem_append]
      rintro (prompt | during | after)
      · cases prompt
      · exact (inner _ tasks _ during).2 rfl
      · exact ih (counter + 1) after

end Talk

section Counter

/-- The lines of a script before the first answer that is no line to run. -/
def upcoming : List (Except Failure (Option String)) → List String
  | .ok (some line) :: rest => if isExit line then [] else line :: upcoming rest
  | _ => []

theorem upcoming_ended {last? : Option String} (ends : Ends last?)
    (rest : List (Except Failure (Option String))) : upcoming (.ok last? :: rest) = [] := by
  cases last? with
  | none => rfl
  | some line => rw [upcoming, if_pos (ends_some_iff.1 ends)]

/-- A loop counts the lines of its script that are run to their end. -/
theorem loop_counter (session : Session LineScript Tasks) :
    (loop LineScript.source executor session).state.counter = session.counter +
      (completed executor (upcoming session.lines.lines) session.tasks).length := by
  induction next : session.lines.lines generalizing session with
  | nil =>
      rw [loop_unread (read_script_nil next)]
      simp [upcoming, completed]
  | cons answer rest ih =>
      rcases answer with failure | last?
      · rw [loop_unread (read_script next)]
        simp [upcoming, completed]
      · by_cases ends : Ends last?
        · rw [loop_ended ends (read_script next), upcoming_ended ends]
          simp [completed]
        · obtain ⟨line, rfl, stays⟩ := exists_of_not_ends ends
          rw [upcoming, stays, if_neg Bool.false_ne_true]
          rcases ran : Sequencer.run executor (Command.ofLine line) session.tasks with
            ⟨failure | launches, tasks, more⟩
          · rw [loop_script_failed stays next ran, completed_cons_error ran]
            simp
          · have counted := ih ⟨session.counter + 1, ⟨rest⟩, tasks⟩ rfl
            rw [loop_script_continued stays next ran, completed_cons_ok ran, List.length_cons]
            simp only [Outcome.after, counted]
            omega

/-- What can be asked of a session on a script. -/
inductive Call where
  | run
  | runLine (line : String)

namespace Call

/-- The session after a call, whether it returned or failed. -/
def perform (executor : Executor Tasks) (session : Session LineScript Tasks) :
    Call → Session LineScript Tasks
  | run => (Session.run LineScript.source executor session).state
  | runLine line => (Session.runLine executor line session).state

/-- The lines that a call runs to their end. -/
def processed (executor : Executor Tasks) (session : Session LineScript Tasks) :
    Call → List String
  | run => completed executor (upcoming session.lines.lines) session.tasks
  | runLine line => completed executor [line] session.tasks

theorem perform_counter (session : Session LineScript Tasks) (call : Call) :
    (call.perform executor session).counter =
      session.counter + (call.processed executor session).length := by
  cases call with
  | run => exact loop_counter session
  | runLine line =>
      rcases ran : Sequencer.run executor (Command.ofLine line) session.tasks with
        ⟨failure | launches, tasks, more⟩
      · simp [perform, processed, Session.runLine, ran, completed_cons_error ran]
      · simp [perform, processed, Session.runLine, ran, completed]

end Call

/-- The session after calls, one after the other. -/
def performAll (executor : Executor Tasks) (session : Session LineScript Tasks) :
    List Call → Session LineScript Tasks
  | [] => session
  | call :: rest => performAll executor (call.perform executor session) rest

/-- The lines that calls run to their end, one after the other. -/
def processedBy (executor : Executor Tasks) (session : Session LineScript Tasks) :
    List Call → List String
  | [] => []
  | call :: rest =>
      call.processed executor session ++ processedBy executor (call.perform executor session) rest

/-- The counter grows with every line that is run to its end, and nothing else moves it. -/
theorem performAll_counter (session : Session LineScript Tasks) (calls : List Call) :
    (performAll executor session calls).counter =
      session.counter + (processedBy executor session calls).length := by
  induction calls generalizing session with
  | nil => simp [performAll, processedBy]
  | cons call rest ih =>
      rw [performAll, processedBy, ih, call.perform_counter, List.length_append]
      omega

end Counter

/-- A session prompts once for every line that it visits, and its farewell comes last and once. -/
theorem Visited.talk {session later : Session LineScript Tasks} {events : List Event}
    {lines : List String} {last? : Option String}
    (inner : ∀ commands, (Sequencer.run executor commands).Emits Inner)
    (visited : Visited executor session later events lines last?) :
    events.filterMap prompt? = (List.range (lines.length + 1)).map
        (fun index : Nat => promptText (session.counter + index)) ∧
      events.getLast? = some .closed ∧ events.count .closed = 1 := by
  rw [visited.events]
  refine ⟨?_, ?_, ?_⟩
  · rw [List.filterMap_append, List.filterMap_cons, transcript_prompts inner, List.range_succ,
      List.map_append, visited.counter]
    rfl
  · rw [List.getLast?_append]
    rfl
  · have absent : Event.closed ∉ transcript executor session.counter lines session.tasks :=
      not_mem_transcript inner session.counter lines
    rw [List.count_append, List.count_cons, List.count_eq_zero.2 absent]
    rfl

/-- A session on scripts returns exactly when it visits some lines and an end. Then it prompts for
each of them with numbers that count up and closes once, at last. An end of the input in place of a
keyword shows only in the record of the end. Whatever is asked of a session, its counter counts the
lines that were run to their end. -/
theorem visited_of_run :
    (∀ (session later : Session LineScript Script) (events : List Event),
      run LineScript.source Script.executor session = ⟨.ok (), later, events⟩ ↔
        ∃ lines last?, Visited Script.executor session later events lines last?) ∧
    (∀ (session later : Session LineScript Script) (events : List Event) (lines : List String)
      (last? : Option String), Visited Script.executor session later events lines last? →
        events.filterMap prompt? = (List.range (lines.length + 1)).map
            (fun index : Nat => promptText (session.counter + index)) ∧
          events.getLast? = some .closed ∧ events.count .closed = 1) ∧
    (∀ (counter : Int) (script : Script) (lines : List String) (keyword : String)
      (rest : List (Except Failure (Option String))) (later : Session LineScript Script)
      (events : List Event), (∀ line ∈ lines, isExit line = false) → isExit keyword = true →
        let session (last? : Option String) : Session LineScript Script :=
          ⟨counter, ⟨lines.map (fun line => .ok (some line)) ++ .ok last? :: rest⟩, script⟩
        run LineScript.source Script.executor (session (some keyword)) =
            ⟨.ok (), later, events ++ [.log .main (.sessionEnded false), .closed]⟩ ↔
          run LineScript.source Script.executor (session none) =
            ⟨.ok (), later, events ++ [.log .main (.sessionEnded true), .closed]⟩) ∧
    ∀ (session : Session LineScript Script) (calls : List Call),
      (performAll Script.executor session calls).counter =
        session.counter + (processedBy Script.executor session calls).length := by
  refine ⟨fun session later events => run_eq_ok_iff,
    fun session later events lines last? visited => visited.talk run_script_inner, ?_,
    fun session calls => performAll_counter session calls⟩
  intro counter script lines keyword rest later events stays exits session
  have byKeyword : run LineScript.source Script.executor (session (some keyword)) =
      ⟨.ok (), later, events ++ farewell (some keyword)⟩ ↔ _ :=
    run_script_eq_ok_iff rfl stays (ends_some_iff.2 exits)
  have byEnd : run LineScript.source Script.executor (session none) =
      ⟨.ok (), later, events ++ farewell none⟩ ↔ _ := run_script_eq_ok_iff rfl stays ends_none
  exact byKeyword.trans byEnd.symm

/-- Two lines without commands and one that fails to start are counted from seven on, and a keyword
ends the session. -/
theorem visited_until_keyword :
    ∃ events, run LineScript.source Script.executor
        ⟨7, ⟨[.ok (some ""), .ok (some " ;& "), .ok (some "x &"), .ok (some "Quit"), .ok none]⟩,
          ⟨[.ok none], []⟩⟩ = ⟨.ok (), ⟨10, ⟨[.ok none]⟩, ⟨[], []⟩⟩, events⟩ ∧
      events.filterMap prompt? = ["shell[7]% ", "shell[8]% ", "shell[9]% ", "shell[10]% "] ∧
      events.getLast? = some .closed ∧ events.count .closed = 1 := by
  have visited : Visited Script.executor
      ⟨7, ⟨[.ok (some ""), .ok (some " ;& "), .ok (some "x &"), .ok (some "Quit"), .ok none]⟩,
        ⟨[.ok none], []⟩⟩ ⟨10, ⟨[.ok none]⟩, ⟨[], []⟩⟩
      [.log .main .sessionStarted, .prompt "shell[7]% ", .prompt "shell[8]% ",
        .prompt "shell[9]% ", .dispatch ["x"], .log .main (.commandFailed "x"), .failed "x",
        .prompt "shell[10]% ", .log .main (.sessionEnded false), .closed]
      ["", " ;& ", "x &"] (some "Quit") := by
    constructor
    case script => rfl
    case stays => decide
    case ends => exact ends_some_iff.2 (by decide)
    case completed => decide
    case counter => rfl
    case tasks => rfl
    case events => decide
  exact ⟨_, (visited_of_run.1 _ _ _).2 ⟨_, _, visited⟩,
    visited_of_run.2.1 _ _ _ _ _ visited⟩

end CommandShell.Session
