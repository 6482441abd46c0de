import CommandShell.LineSource
import CommandShell.Sequencer
import CommandShell.Text.LetterCase

/-!
A session reads lines and runs them until a line is an exit keyword or the input ends. The prompt
counts the lines that were run.
-/

namespace CommandShell

/-- The state of a session: the number in the prompt, the lines to come, and the executor's state. -/
structure Session (Lines Tasks : Type) where
  counter : Int
  lines : Lines
  tasks : Tasks

namespace Session

variable {Lines Tasks : Type}

/-- A session that has read nothing. -/
def fresh (lines : Lines) (tasks : Tasks) : Session Lines Tasks := ⟨1, lines, tasks⟩

/-- The prompt shows the counter. -/
def promptText (counter : Int) : String := "shell[" ++ toString counter ++ "]% "

/-- The keywords that end a session. -/
def exitKeywords : List String := ["exit", "quit"]

/-- A line ends the session when all of it is an exit keyword, in any case of letters. -/
def isExit (line : String) : Bool :=
  exitKeywords.contains (lowerCase line)

/-- Run the commands of one line, and count it when all of them were run. -/
def runLine (executor : Executor Tasks) (line : String) : Step (Session Lines Tasks) (List Launch) :=
  fun session =>
    match Sequencer.run executor (Command.ofLine line) session.tasks with
    | ⟨.ok launches, tasks, events⟩ =>
        ⟨.ok launches, { session with tasks := tasks, counter := session.counter + 1 }, events⟩
    | ⟨.error failure, tasks, events⟩ => ⟨.error failure, { session with tasks := tasks }, events⟩

theorem runLine_lines (executor : Executor Tasks) (line : String) (session : Session Lines Tasks) :
    (runLine executor line session).state.lines = session.lines := by
  unfold runLine
  split <;> rfl

/-- Read and run lines until one ends the session. -/
def loop (source : LineSource Lines) (executor : Executor Tasks) (session : Session Lines Tasks) :
    Outcome (Session Lines Tasks) Unit :=
  match reading : source.read (promptText session.counter) session.lines with
  | ⟨.error failure, lines, events⟩ => ⟨.error failure, { session with lines := lines }, events⟩
  | ⟨.ok none, lines, events⟩ =>
      ⟨.ok (), { session with lines := lines },
        events ++ [.log .main (.sessionEnded true), .closed]⟩
  | ⟨.ok (some line), lines, events⟩ =>
      if isExit line then
        ⟨.ok (), { session with lines := lines },
          events ++ [.log .main (.sessionEnded false), .closed]⟩
      else
        match _running : runLine executor line { session with lines := lines } with
        | ⟨.error failure, later, more⟩ => ⟨.error failure, later, events ++ more⟩
        | ⟨.ok _, later, more⟩ => (loop source executor later).after (events ++ more)
termination_by source.remaining session.lines
decreasing_by
  have kept := runLine_lines executor line { session with lines := lines }
  rw [_running] at kept
  simp only at kept
  rw [kept]
  exact source.remaining_lt reading

/-- A whole session. -/
def run (source : LineSource Lines) (executor : Executor Tasks) :
    Step (Session Lines Tasks) Unit := fun session =>
  (loop source executor session).after [.log .main .sessionStarted]

end Session

end CommandShell
