import CommandShell.Proofs.LineSource.Stream
import CommandShell.Proofs.Sequencer.Turns
import CommandShell.Proofs.Session.Loop

/-!
One session on two sources of lines. Sources that answer alike drive the same session: only what
they do to ask for a line differs. `same_session_of_lines` says so of a text stream and an
interactive prompt that hold the same lines.
-/

namespace CommandShell

variable {First Second Tasks : Type} {first : LineSource First} {second : LineSource Second}

/-- From related states on, two sources answer alike as long as they have lines. -/
structure LineSource.Alike (first : LineSource First) (second : LineSource Second)
    (related : First → Second → Prop) : Prop where
  answer : ∀ {one two}, related one two → ∀ prompt,
    (first.read prompt one).answer = (second.read prompt two).answer
  later : ∀ {one two}, related one two → ∀ prompt line,
    (first.read prompt one).answer = .ok (some line) →
      related (first.read prompt one).state (second.read prompt two).state

/-- A source does the same whenever it asks for a line with some prompt. -/
def LineSource.AsksBy (source : LineSource First) (asks : String → List Event) : Prop :=
  ∀ prompt state, (source.read prompt state).events = asks prompt

/-- Of related states, what the first source answers the second one answers as well. -/
theorem LineSource.Alike.exists_read {related : First → Second → Prop}
    {secondAsks : String → List Event} (alike : first.Alike second related)
    (asksSecond : second.AsksBy secondAsks) {prompt : String} {one later : First} {two : Second}
    (same : related one two) {answer : Except Failure (Option String)} {events : List Event}
    (reading : first.read prompt one = ⟨answer, later, events⟩) :
    ∃ other, second.read prompt two = ⟨answer, other, secondAsks prompt⟩ ∧
      ∀ line, answer = .ok (some line) → related later other := by
  have answers := alike.answer same prompt
  have goesOn := alike.later same prompt
  have asked := asksSecond prompt two
  rcases reading' : second.read prompt two with ⟨answer', other, events'⟩
  rw [reading, reading'] at answers goesOn
  rw [reading'] at asked
  obtain rfl : answer = answer' := answers
  obtain rfl : events' = secondAsks prompt := asked
  exact ⟨other, rfl, goesOn⟩

namespace Session

variable {related : First → Second → Prop} {executor : Executor Tasks}
  {firstAsks secondAsks : String → List Event} {counter : Int}

/-- What happens in rounds, each after a prompt for a line. -/
def rounds (asks : String → List Event) (counter : Int) : List (List Event) → List Event
  | [] => []
  | round :: rest => asks (promptText counter) ++ round ++ rounds asks (counter + 1) rest

theorem rounds_singleton (asks : String → List Event) (counter : Int) (round : List Event) :
    rounds asks counter [round] = asks (promptText counter) ++ round := by
  rw [rounds, rounds, List.append_nil]

/-- Sources that answer alike drive the same loop, round by round. -/
theorem exists_rounds_of_loop (alike : first.Alike second related)
    (asksFirst : first.AsksBy firstAsks) (asksSecond : second.AsksBy secondAsks)
    (session : Session First Tasks) {two : Second} (same : related session.lines two) :
    ∃ answer counter tasks one' two' told,
      loop first executor session =
        ⟨answer, ⟨counter, one', tasks⟩, rounds firstAsks session.counter told⟩ ∧
      loop second executor ⟨session.counter, two, session.tasks⟩ =
        ⟨answer, ⟨counter, two', tasks⟩, rounds secondAsks session.counter told⟩ := by
  induction session using loop_induction first executor generalizing two with
  | unread session failure lines events reading =>
      obtain ⟨other, reading', _⟩ := alike.exists_read asksSecond same reading
      obtain rfl : events = firstAsks (promptText session.counter) := by
        rw [← asksFirst _ session.lines, reading]
      refine ⟨.error failure, session.counter, session.tasks, lines, other, [[]], ?_, ?_⟩
      · rw [loop_unread reading, rounds_singleton, List.append_nil]
      · have goes : loop second executor ⟨session.counter, two, session.tasks⟩ =
            ⟨.error failure, ⟨session.counter, other, session.tasks⟩, _⟩ := loop_unread reading'
        rw [goes, rounds_singleton, List.append_nil]
  | ended session line? lines events ends reading =>
      obtain ⟨other, reading', _⟩ := alike.exists_read asksSecond same reading
      obtain rfl : events = firstAsks (promptText session.counter) := by
        rw [← asksFirst _ session.lines, reading]
      refine ⟨.ok (), session.counter, session.tasks, lines, other, [farewell line?], ?_, ?_⟩
      · rw [loop_ended ends reading, rounds_singleton]
      · have goes : loop second executor ⟨session.counter, two, session.tasks⟩ =
            ⟨.ok (), ⟨session.counter, other, session.tasks⟩, _⟩ := loop_ended ends reading'
        rw [goes, rounds_singleton]
  | failed session line lines events failure later more stays reading running =>
      obtain ⟨other, reading', _⟩ := alike.exists_read asksSecond same reading
      obtain rfl : events = firstAsks (promptText session.counter) := by
        rw [← asksFirst _ session.lines, reading]
      obtain ⟨ran, whole⟩ := runLine_eq_error_iff.1 running
      have running' : runLine executor line ⟨session.counter, other, session.tasks⟩ =
          ⟨.error failure, ⟨session.counter, other, later.tasks⟩, more⟩ :=
        runLine_eq_error_iff.2 ⟨ran, rfl⟩
      refine ⟨.error failure, session.counter, later.tasks, lines, other, [more], ?_, ?_⟩
      · rw [loop_failed stays reading running, rounds_singleton, whole]
      · have goes : loop second executor ⟨session.counter, two, session.tasks⟩ =
            ⟨.error failure, ⟨session.counter, other, later.tasks⟩, _⟩ :=
          loop_failed stays reading' running'
        rw [goes, rounds_singleton]
  | continued session line lines events launches later more stays reading running ih =>
      obtain ⟨other, reading', goesOn⟩ := alike.exists_read asksSecond same reading
      obtain rfl : events = firstAsks (promptText session.counter) := by
        rw [← asksFirst _ session.lines, reading]
      obtain ⟨tasks, ran, rfl⟩ := runLine_eq_ok_iff.1 running
      have running' : runLine executor line ⟨session.counter, other, session.tasks⟩ =
          ⟨.ok launches, ⟨session.counter + 1, other, tasks⟩, more⟩ :=
        runLine_eq_ok_iff.2 ⟨tasks, ran, rfl⟩
      obtain ⟨answer, counter, left, one', two', told, goes, goes'⟩ := ih (goesOn line rfl)
      refine ⟨answer, counter, left, one', two', more :: told, ?_, ?_⟩
      · rw [loop_continued stays reading running, goes]
        rfl
      · have step : loop second executor ⟨session.counter, two, session.tasks⟩ =
            (loop second executor ⟨session.counter + 1, other, tasks⟩).after _ :=
          loop_continued stays reading' running'
        rw [step, goes']
        rfl

/-- Asking for lines leaves no calls. -/
theorem filter_rounds {asks : String → List Event}
    (silent : ∀ prompt, (asks prompt).filter Event.isCall = []) (counter : Int)
    (told : List (List Event)) : (rounds asks counter told).filter Event.isCall =
      told.flatMap (·.filter Event.isCall) := by
  induction told generalizing counter with
  | nil => rfl
  | cons round rest ih =>
      rw [rounds, List.filter_append, List.filter_append, silent, ih, List.flatMap_cons]
      rfl

end Session

namespace Prompter

/-- The question is the prompt without the blank at its end. -/
theorem question_promptText (counter : Int) :
    question (Session.promptText counter) ++ " " = Session.promptText counter := by
  have whole : Session.promptText counter = "shell[" ++ toString counter ++ "]%" ++ " " := by
    have mark : "]% " = "]%" ++ " " := rfl
    rw [Session.promptText, mark, ← String.append_assoc]
  have ends : ∀ char ∈ ("shell[" ++ toString counter ++ "]%").toList.getLast?,
      Text.isBlank char = false := by
    rw [String.toList_append, List.getLast?_append]
    rintro char ⟨⟩
    rfl
  have blank : ∀ char ∈ " ".toList, Text.isBlank char = true := by
    rintro char (_ | ⟨_, ⟨⟩⟩)
    rfl
  rw [question, whole, String.toList_append, Text.trimEnd_append ends blank, String.ofList_toList]

end Prompter

namespace Session

/-- A stream and a prompt that hold the same lines. -/
inductive Hold (rest : List (Except Failure (Option String))) : LineStream → Prompter → Prop
  | lines (lines : List String) (unbroken : ∀ line ∈ lines, LineStream.Unbroken line.toList) :
      Hold rest ⟨lines.flatMap (·.toList ++ ['\n']), none⟩
        ⟨lines.map (fun line => .ok (some line)) ++ .ok none :: rest⟩

/-- At the end of the text there is no line, where the question is cancelled. -/
theorem hold_alike (rest : List (Except Failure (Option String))) :
    LineStream.source.Alike Prompter.source (Hold rest) where
  answer := by
    rintro _ _ ⟨_ | ⟨line, lines⟩, unbroken⟩ prompt
    · rfl
    · have read := (unbroken line List.mem_cons_self).read_feed prompt
        (lines.flatMap (·.toList ++ ['\n'])) none
      rw [List.flatMap_cons, List.append_assoc, List.singleton_append, read, String.ofList_toList]
      rfl
  later := by
    rintro _ _ ⟨_ | ⟨line, lines⟩, unbroken⟩ prompt answered more
    · cases more
    · have read := (unbroken line List.mem_cons_self).read_feed prompt
        (lines.flatMap (·.toList ++ ['\n'])) none
      rw [List.flatMap_cons, List.append_assoc, List.singleton_append, read]
      exact .lines lines fun other inside => unbroken other (List.mem_cons_of_mem _ inside)

/-- The same lines from a text stream and from an interactive prompt drive the same session, whatever
the executor does: the answer, the counter, the tasks and all calls are the same, and so is what
happens in each round. Where the stream writes a prompt, the question is the prompt without its last
blank. -/
theorem same_session_of_lines {Tasks : Type} (executor : Executor Tasks) (counter : Int)
    (tasks : Tasks) (universal : Bool) (lines : List String)
    (unbroken : ∀ line ∈ lines, LineStream.Unbroken line.toList)
    (rest : List (Except Failure (Option String))) :
    let text := String.join (lines.map (· ++ "\n"))
    let streamed := run LineStream.source executor
      ⟨counter, LineStream.ofText universal text none, tasks⟩
    let prompted := run Prompter.source executor
      ⟨counter, ⟨lines.map (fun line => .ok (some line)) ++ .ok none :: rest⟩, tasks⟩
    streamed.answer = prompted.answer ∧
      streamed.state.counter = prompted.state.counter ∧
      streamed.state.tasks = prompted.state.tasks ∧
      streamed.events.filter Event.isCall = prompted.events.filter Event.isCall ∧
      (∃ told, streamed.events = .log .main .sessionStarted ::
          rounds (fun prompt => [.deed (.write prompt), .deed .flush]) counter told ∧
        prompted.events = .log .main .sessionStarted ::
          rounds (fun prompt => [.ask (Prompter.question prompt) ""]) counter told) ∧
      ∀ number, Prompter.question (promptText number) ++ " " = promptText number := by
  intro text streamed prompted
  obtain ⟨answer, final, left, one, two, told, goes, goes'⟩ := exists_rounds_of_loop
    (hold_alike rest) LineStream.read_events Prompter.read_events
    ⟨counter, LineStream.ofText universal text none, tasks⟩
    (LineStream.ofText_lines unbroken universal none ▸ Hold.lines lines unbroken)
  have first : streamed = ⟨answer, ⟨final, one, left⟩, _⟩ := Outcome.after_eq_iff.2 ⟨_, goes, rfl⟩
  have second : prompted = ⟨answer, ⟨final, two, left⟩, _⟩ :=
    Outcome.after_eq_iff.2 ⟨_, goes', rfl⟩
  rw [first, second]
  refine ⟨rfl, rfl, rfl, ?_, ⟨told, rfl, rfl⟩, Prompter.question_promptText⟩
  rw [List.filter_append, List.filter_append, filter_rounds fun _ => rfl, filter_rounds fun _ => rfl]

/-- A line of a line separator is a line like any other, and one whose wait fails ends both
sessions. -/
theorem same_session_of_separator :
    let streamed := run LineStream.source Script.executor
      ⟨7, LineStream.ofText true "\u2028\nx\nexit\n" none, ⟨[.ok (some 1)], []⟩⟩
    let prompted := run Prompter.source Script.executor
      ⟨7, ⟨[.ok (some "\u2028"), .ok (some "x"), .ok (some "exit"), .ok none]⟩,
        ⟨[.ok (some 1)], []⟩⟩
    streamed.answer = prompted.answer ∧ streamed.state.counter = prompted.state.counter ∧
      streamed.events.filter Event.isCall = prompted.events.filter Event.isCall := by
  have unbroken : ∀ line ∈ ["\u2028", "x", "exit"], LineStream.Unbroken line.toList := by decide
  have same := same_session_of_lines Script.executor 7 ⟨[.ok (some 1)], []⟩ true
    ["\u2028", "x", "exit"] unbroken []
  exact ⟨same.1, same.2.1, same.2.2.2.1⟩

end Session

end CommandShell
