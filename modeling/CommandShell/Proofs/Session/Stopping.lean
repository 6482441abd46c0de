import CommandShell.Proofs.Session.Loop

/-!
Where the reading of a session stops: at the first answer of its source that is no line to run.
When no run of a line fails, this answer alone decides how the session ends.
-/

namespace CommandShell.Session

variable {Lines Tasks : Type} {source : LineSource Lines} {executor : Executor Tasks}
  {counter : Int} {lines : Lines} {answer : Except Failure (Option String)}

/-- The reading from a number on stops with an answer: a failure, the end of the input, or an exit
keyword. Every answer before it is a line to run. -/
inductive Stops (source : LineSource Lines) :
    Int → Lines → Except Failure (Option String) → Prop
  | raised {counter : Int} {lines rest : Lines} {failure : Failure} {events : List Event}
      (reading : source.read (promptText counter) lines = ⟨.error failure, rest, events⟩) :
      Stops source counter lines (.error failure)
  | ended {counter : Int} {lines rest : Lines} {line? : Option String} {events : List Event}
      (ends : Ends line?)
      (reading : source.read (promptText counter) lines = ⟨.ok line?, rest, events⟩) :
      Stops source counter lines (.ok line?)
  | later {counter : Int} {lines rest : Lines} {line : String} {events : List Event}
      {answer : Except Failure (Option String)} (stays : isExit line = false)
      (reading : source.read (promptText counter) lines = ⟨.ok (some line), rest, events⟩)
      (stops : Stops source (counter + 1) rest answer) : Stops source counter lines answer

/-- A session whose lines all run to their end ends as its reading stops, whatever the executor
does. -/
theorem Stops.exists_loop {property : Tasks → Prop}
    (runs : ∀ commands tasks, property tasks → ∃ launches later events,
      Sequencer.run executor commands tasks = ⟨.ok launches, later, events⟩ ∧ property later)
    (stops : Stops source counter lines answer) {tasks : Tasks} (holds : property tasks) :
    ∃ later events, loop source executor ⟨counter, lines, tasks⟩ =
      ⟨answer.map fun _ => (), later, events⟩ := by
  induction stops generalizing tasks with
  | raised reading => exact ⟨_, _, loop_unread reading⟩
  | ended ends reading => exact ⟨_, _, loop_ended ends reading⟩
  | @later counter lines rest line events answer stays reading stops ih =>
      obtain ⟨launches, left, told, ran, holds'⟩ := runs (Command.ofLine line) tasks holds
      obtain ⟨later, more, goes⟩ := ih holds'
      have running : runLine executor line (Session.mk counter rest tasks) =
          ⟨.ok launches, ⟨counter + 1, rest, left⟩, told⟩ := runLine_eq_ok_iff.2 ⟨left, ran, rfl⟩
      have step : loop source executor ⟨counter, lines, tasks⟩ =
          (loop source executor ⟨counter + 1, rest, left⟩).after (events ++ told) :=
        loop_continued stays reading running
      exact ⟨later, events ++ told ++ more, by rw [step, goes]; rfl⟩

/-- Every reading stops. -/
theorem exists_stops (source : LineSource Lines) (counter : Int) (lines : Lines) :
    ∃ answer, Stops source counter lines answer := by
  induction bound : source.remaining lines using Nat.strongRecOn generalizing counter lines with
  | ind count ih =>
      rcases reading : source.read (promptText counter) lines with ⟨failure | line?, rest, events⟩
      · exact ⟨_, .raised reading⟩
      · by_cases ends : Ends line?
        · exact ⟨_, .ended ends reading⟩
        · obtain ⟨line, rfl, stays⟩ := exists_of_not_ends ends
          have fewer : source.remaining rest < count := bound ▸ source.remaining_lt reading
          obtain ⟨answer, stops⟩ := ih _ fewer (counter + 1) rest rfl
          exact ⟨answer, .later stays reading stops⟩

end CommandShell.Session
