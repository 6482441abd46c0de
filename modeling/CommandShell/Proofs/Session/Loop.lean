import CommandShell.Proofs.Sequencer.Emission
import CommandShell.Session

/-!
The loop of a session, one line at a time: a line that was read ends the session, fails in its run,
or is counted and followed by the rest of the loop. What holds of all runs of lines holds of the
loop.
-/

namespace CommandShell.Session

variable {Lines Tasks : Type} {source : LineSource Lines} {executor : Executor Tasks}
  {session later : Session Lines Tasks} {lines : Lines} {events more : List Event}

/-- The end of the input ends a session, and so does an exit keyword. -/
def Ends (line? : Option String) : Prop := ∀ line ∈ line?, isExit line = true

theorem ends_none : Ends none := fun _ inside => nomatch inside

theorem ends_some_iff {line : String} : Ends (some line) ↔ isExit line = true := by
  simp [Ends]

theorem exists_of_not_ends {line? : Option String} (stays : ¬ Ends line?) :
    ∃ line, line? = some line ∧ isExit line = false := by
  cases line? with
  | none => exact absurd ends_none stays
  | some line =>
      rw [ends_some_iff, Bool.not_eq_true] at stays
      exact ⟨line, rfl, stays⟩

/-- What a session says when it ends. -/
def farewell (line? : Option String) : List Event :=
  [.log .main (.sessionEnded line?.isNone), .closed]

section RunLine

variable {line : String} {told : List Event}

theorem runLine_eq_ok_iff {launches : List Launch} :
    runLine executor line session = ⟨.ok launches, later, told⟩ ↔
      ∃ tasks, Sequencer.run executor (Command.ofLine line) session.tasks =
          ⟨.ok launches, tasks, told⟩ ∧
        later = { session with tasks := tasks, counter := session.counter + 1 } := by
  rcases ran : Sequencer.run executor (Command.ofLine line) session.tasks with
    ⟨failure | front, tasks, fore⟩
  · simp [runLine, ran]
  · simp only [runLine, ran, Outcome.mk.injEq, Except.ok.injEq]
    constructor
    · rintro ⟨rfl, rfl, rfl⟩
      exact ⟨tasks, ⟨rfl, rfl, rfl⟩, rfl⟩
    · rintro ⟨_, ⟨rfl, rfl, rfl⟩, rfl⟩
      exact ⟨rfl, rfl, rfl⟩

theorem runLine_events (executor : Executor Tasks) (line : String)
    (session : Session Lines Tasks) : (runLine executor line session).events =
      (Sequencer.run executor (Command.ofLine line) session.tasks).events := by
  unfold runLine
  split <;> simp_all

/-- A line whose run fails is not counted. -/
theorem runLine_eq_error_iff {failure : Failure} :
    runLine executor line session = ⟨.error failure, later, told⟩ ↔
      Sequencer.run executor (Command.ofLine line) session.tasks =
          ⟨.error failure, later.tasks, told⟩ ∧
        later = { session with tasks := later.tasks } := by
  rcases ran : Sequencer.run executor (Command.ofLine line) session.tasks with
    ⟨refused | front, tasks, fore⟩
  · simp only [runLine, ran, Outcome.mk.injEq]
    constructor
    · rintro ⟨same, rfl, rfl⟩
      exact ⟨⟨same, rfl, rfl⟩, rfl⟩
    · rintro ⟨⟨same, rfl, rfl⟩, whole⟩
      exact ⟨same, whole.symm, rfl⟩
  · simp [runLine, ran]

end RunLine

theorem loop_unread {failure : Failure}
    (reading : source.read (promptText session.counter) session.lines =
      ⟨.error failure, lines, events⟩) :
    loop source executor session = ⟨.error failure, { session with lines := lines }, events⟩ := by
  rw [loop]
  split <;> simp_all

theorem loop_ended {line? : Option String} (ends : Ends line?)
    (reading : source.read (promptText session.counter) session.lines =
      ⟨.ok line?, lines, events⟩) :
    loop source executor session =
      ⟨.ok (), { session with lines := lines }, events ++ farewell line?⟩ := by
  rw [loop]
  cases line? with
  | none => split <;> simp_all [farewell]
  | some line =>
      rw [ends_some_iff] at ends
      split <;> simp_all [farewell]

theorem loop_failed {line : String} {failure : Failure} (stays : isExit line = false)
    (reading : source.read (promptText session.counter) session.lines =
      ⟨.ok (some line), lines, events⟩)
    (running : runLine executor line { session with lines := lines } =
      ⟨.error failure, later, more⟩) :
    loop source executor session = ⟨.error failure, later, events ++ more⟩ := by
  rw [loop]
  split
  case h_1 => simp_all
  case h_2 => simp_all
  case h_3 found =>
    rw [reading] at found
    cases found
    rw [stays, if_neg Bool.false_ne_true]
    split <;> simp_all

theorem loop_continued {line : String} {launches : List Launch} (stays : isExit line = false)
    (reading : source.read (promptText session.counter) session.lines =
      ⟨.ok (some line), lines, events⟩)
    (running : runLine executor line { session with lines := lines } =
      ⟨.ok launches, later, more⟩) :
    loop source executor session = (loop source executor later).after (events ++ more) := by
  rw [loop]
  split
  case h_1 => simp_all
  case h_2 => simp_all
  case h_3 found =>
    rw [reading] at found
    cases found
    rw [stays, if_neg Bool.false_ne_true]
    split <;> simp_all

/-- A loop cannot read, ends, fails to run a line, or runs it and goes on. -/
@[elab_as_elim]
theorem loop_induction {motive : Session Lines Tasks → Prop} (source : LineSource Lines)
    (executor : Executor Tasks)
    (unread : ∀ session failure lines events,
      source.read (promptText session.counter) session.lines = ⟨.error failure, lines, events⟩ →
        motive session)
    (ended : ∀ session line? lines events, Ends line? →
      source.read (promptText session.counter) session.lines = ⟨.ok line?, lines, events⟩ →
        motive session)
    (failed : ∀ session line lines events failure later more, isExit line = false →
      source.read (promptText session.counter) session.lines = ⟨.ok (some line), lines, events⟩ →
        runLine executor line { session with lines := lines } = ⟨.error failure, later, more⟩ →
          motive session)
    (continued : ∀ session line lines events launches later more, isExit line = false →
      source.read (promptText session.counter) session.lines = ⟨.ok (some line), lines, events⟩ →
        runLine executor line { session with lines := lines } = ⟨.ok launches, later, more⟩ →
          motive later → motive session)
    (session : Session Lines Tasks) : motive session := by
  induction bound : source.remaining session.lines using Nat.strongRecOn generalizing session with
  | ind count ih =>
      rcases reading : source.read (promptText session.counter) session.lines with
        ⟨failure | line?, lines, events⟩
      · exact unread session failure lines events reading
      · by_cases ends : Ends line?
        · exact ended session line? lines events ends reading
        · obtain ⟨line, rfl, stays⟩ := exists_of_not_ends ends
          have kept := runLine_lines executor line { session with lines := lines }
          rcases running : runLine executor line { session with lines := lines } with
            ⟨failure | launches, later, more⟩
          · exact failed session line lines events failure later more stays reading running
          · rw [running] at kept
            have fewer : source.remaining later.lines < count := by
              rw [kept, ← bound]
              exact source.remaining_lt reading
            exact continued session line lines events launches later more stays reading running
              (ih _ fewer later rfl)

/-- Two executors that run every line alike are alike to the loop. -/
theorem loop_congr {other : Executor Tasks}
    (same : ∀ line (session : Session Lines Tasks),
      runLine executor line session = runLine other line session)
    (session : Session Lines Tasks) : loop source executor session = loop source other session := by
  induction session using loop_induction source executor with
  | unread session failure lines events reading => rw [loop_unread reading, loop_unread reading]
  | ended session line? lines events ends reading =>
      rw [loop_ended ends reading, loop_ended ends reading]
  | failed session line lines events failure later more stays reading running =>
      have again := (same line { session with lines := lines }).symm.trans running
      rw [loop_failed stays reading running, loop_failed stays reading again]
  | continued session line lines events launches later more stays reading running ih =>
      have again := (same line { session with lines := lines }).symm.trans running
      rw [loop_continued stays reading running, loop_continued stays reading again, ih]

section Emission

variable {property : Event → Prop}

theorem runLine_emits {line : String}
    (runs : (Sequencer.run executor (Command.ofLine line)).Emits property) :
    (runLine executor line : Step (Session Lines Tasks) (List Launch)).Emits property := by
  intro session
  have events := runs session.tasks
  rcases ran : Sequencer.run executor (Command.ofLine line) session.tasks with
    ⟨failure | launches, tasks, _⟩
  · simpa [runLine, ran] using events
  · simpa [runLine, ran] using events

/-- A loop emits what reading emits, what the runs of lines emit, and its farewell. -/
theorem loop_emits (reads : ∀ prompt, (source.read prompt).Emits property)
    (runs : ∀ line,
      (runLine executor line : Step (Session Lines Tasks) (List Launch)).Emits property)
    (closes : ∀ line?, ∀ event ∈ farewell line?, property event) :
    Step.Emits property (loop source executor) := by
  intro session event inside
  induction session using loop_induction source executor with
  | unread session failure lines events reading =>
      have first := reads (promptText session.counter) session.lines event
      rw [reading] at first
      rw [loop_unread reading] at inside
      exact first inside
  | ended session line? lines events ends reading =>
      have first := reads (promptText session.counter) session.lines event
      rw [reading] at first
      rw [loop_ended ends reading, List.mem_append] at inside
      rcases inside with before | after
      · exact first before
      · exact closes line? event after
  | failed session line lines events failure later more stays reading running =>
      have first := reads (promptText session.counter) session.lines event
      have ran := runs line { session with lines := lines } event
      rw [reading] at first
      rw [running] at ran
      rw [loop_failed stays reading running, List.mem_append] at inside
      rcases inside with before | after
      · exact first before
      · exact ran after
  | continued session line lines events launches later more stays reading running ih =>
      have first := reads (promptText session.counter) session.lines event
      have ran := runs line { session with lines := lines } event
      rw [reading] at first
      rw [running] at ran
      rw [loop_continued stays reading running, Outcome.after, List.mem_append,
        List.mem_append] at inside
      rcases inside with (before | during) | after
      · exact first before
      · exact ran during
      · exact ih after

/-- A loop that fails says no farewell. -/
theorem not_closed_of_loop (reads : ∀ prompt, (source.read prompt).Emits (· ≠ .closed))
    (runs : ∀ commands, (Sequencer.run executor commands).Emits (· ≠ .closed)) {failure : Failure}
    {told : List Event} (fails : loop source executor session = ⟨.error failure, later, told⟩) :
    Event.closed ∉ told := by
  intro inside
  induction session using loop_induction source executor generalizing told with
  | unread session refused lines events reading =>
      have first := reads (promptText session.counter) session.lines .closed
      rw [loop_unread reading] at fails
      rw [reading] at first
      cases fails
      exact first inside rfl
  | ended session line? lines events ends reading =>
      rw [loop_ended ends reading] at fails
      cases fails
  | failed session line lines events refused after more stays reading running =>
      have first := reads (promptText session.counter) session.lines .closed
      have ran := runs (Command.ofLine line) session.tasks .closed
      obtain ⟨goes, _⟩ := runLine_eq_error_iff.1 running
      rw [loop_failed stays reading running] at fails
      rw [reading] at first
      rw [goes] at ran
      cases fails
      rcases List.mem_append.1 inside with before | during
      · exact first before rfl
      · exact ran during rfl
  | continued session line lines events launches after more stays reading running ih =>
      have first := reads (promptText session.counter) session.lines .closed
      have ran := runs (Command.ofLine line) session.tasks .closed
      obtain ⟨tasks, goes, _⟩ := runLine_eq_ok_iff.1 running
      rw [loop_continued stays reading running, Outcome.after_eq_iff] at fails
      obtain ⟨others, goesOn, rfl⟩ := fails
      rw [reading] at first
      rw [goes] at ran
      rcases List.mem_append.1 inside with before | afterwards
      · rcases List.mem_append.1 before with earlier | during
        · exact first earlier rfl
        · exact ran during rfl
      · exact ih goesOn afterwards

end Emission

end CommandShell.Session
