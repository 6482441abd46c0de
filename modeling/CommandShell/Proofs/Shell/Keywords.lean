import CommandShell.Proofs.Session.Keywords
import CommandShell.Proofs.Shell.SingleLine

/-!
A line that is given to the shell by itself: a keyword is the only line that it leaves alone.
`only_keywords_end` says so of the shell and of sessions.
-/

namespace CommandShell

/-- Commands that are run to their end are reported. -/
theorem Sequencer.events_ne_nil {State : Type} {executor : Executor State} {command : Command}
    {rest : List Command} {state later : State} {launches : List Launch} {events : List Event}
    (ran : run executor (command :: rest) state = ⟨.ok launches, later, events⟩) : events ≠ [] := by
  obtain ⟨launch, _, _, _, started, awaited, _, starts, _, _, _, rfl⟩ := run_cons_eq_ok_iff.1 ran
  obtain ⟨asked, _, _, rfl⟩ := start_eq_ok_iff.1 starts
  have reported : launch.report ≠ [] := by
    rcases launch with ⟨command, _ | task⟩ <;> simp [Launch.report]
  simp [reported]

namespace Shell

variable {found : Launcher} {line : String}

/-- Run commands from no task on, and wait for all tasks when they were run to their end. -/
def runAll (launcher : Launcher) (commands : List Command) : Outcome TaskTable Unit :=
  match Sequencer.run (TaskTable.executor launcher) commands TaskTable.empty with
  | ⟨.error failure, table, events⟩ => ⟨.error failure, table, events⟩
  | ⟨.ok _, table, events⟩ => (TaskTable.drain table).after events

theorem runAll_nil (launcher : Launcher) :
    runAll launcher [] = ⟨.ok (), TaskTable.empty, []⟩ := by
  have drained : TaskTable.drain TaskTable.empty = ⟨.ok (), TaskTable.empty, []⟩ := by
    rw [TaskTable.drain]
    rfl
  exact congrArg (Outcome.after []) drained

/-- Commands that are run to their end do something, if there are any. -/
theorem eq_nil_of_runAll {commands : List Command} {table : TaskTable}
    (silent : runAll found commands = ⟨.ok (), table, []⟩) : commands = [] := by
  rcases ran : Sequencer.run (TaskTable.executor found) commands TaskTable.empty with
    ⟨failure | launches, middle, events⟩
  · simp [runAll, ran] at silent
  · simp only [runAll, ran] at silent
    obtain ⟨drained, _, whole⟩ := Outcome.after_eq_iff.1 silent
    obtain ⟨rfl, _⟩ := List.append_eq_nil_iff.1 whole.symm
    rcases commands with _ | ⟨command, rest⟩
    · rfl
    · exact absurd rfl (Sequencer.events_ne_nil ran)

theorem runCommand_keyword (keyword : Session.Keyword line) :
    runCommand found line = ⟨.ok (), TaskTable.empty, []⟩ :=
  if_pos (Session.isExit_iff_keyword.2 keyword)

/-- The commands of every other line are run. -/
theorem runCommand_of_not_keyword (stays : ¬ Session.Keyword line) :
    runCommand found line = runAll found (Command.ofLine line) := by
  have goes := Session.isExit_eq_false_iff.2 stays
  rcases ran : Sequencer.run (TaskTable.executor found) (Command.ofLine line) TaskTable.empty with
    ⟨failure | launches, table, events⟩ <;>
    simp [runCommand, runAll, goes, Session.runLine, Session.fresh, ran]

/-- A line does nothing when it is a keyword or has no commands. -/
theorem exists_runCommand_silent_iff :
    (∃ table, runCommand found line = ⟨.ok (), table, []⟩) ↔
      Session.Keyword line ∨ Command.ofLine line = [] := by
  by_cases keyword : Session.Keyword line
  · exact ⟨fun _ => .inl keyword, fun _ => ⟨_, runCommand_keyword keyword⟩⟩
  · rw [runCommand_of_not_keyword keyword, or_iff_right keyword]
    constructor
    · rintro ⟨table, silent⟩
      exact eq_nil_of_runAll silent
    · intro none
      exact ⟨_, none ▸ runAll_nil found⟩

theorem perform_given {surroundings : Surroundings} {options : Options}
    (chosen : launcher options.executor surroundings.processes = .ok found)
    (given : options.command? = some (.text line)) :
    perform surroundings options =
      ((runCommand found line).answer, (runCommand found line).events) := by
  simp only [perform, chosen, given]

theorem perform_silent_iff {surroundings : Surroundings} {options : Options}
    (chosen : launcher options.executor surroundings.processes = .ok found)
    (given : options.command? = some (.text line)) :
    perform surroundings options = (.ok (), []) ↔
      Session.Keyword line ∨ Command.ofLine line = [] := by
  rw [perform_given chosen given, ← @exists_runCommand_silent_iff found]
  rcases runCommand found line with ⟨answer, table, events⟩
  simp

/-- Exactly the spellings of `exit` and `quit` in small and capital letters of the alphabet are
keywords, and such a line has nothing around them and nothing else in it. A session returns only when
it has read a keyword or its source has no line, and it has run every line before. The shell runs every
line that it is given but a keyword, which shows when the line has commands. -/
theorem only_keywords_end :
    (∀ line : String, Session.isExit line = true ↔ Session.Keyword line) ∧
    (∀ line : String, Session.Keyword line →
      line.length = 4 ∧ ∀ char ∈ line.toList, char.isAlpha = true) ∧
    (∀ {Lines Tasks : Type} (source : LineSource Lines) (executor : Executor Tasks)
      (session later : Session Lines Tasks),
      (∃ events, Session.run source executor session = ⟨.ok (), later, events⟩) ↔
        ∃ lines last?, Session.Finishes source executor session lines last? later) ∧
    ∀ (surroundings : Surroundings) (options : Options) (found : Launcher) (line : String),
      launcher options.executor surroundings.processes = .ok found → options.command? = some (.text line) →
        (perform surroundings options = (.ok (), []) ↔
          Session.Keyword line ∨ Command.ofLine line = []) ∧
        (¬ Session.Keyword line →
          let outcome := runAll found (Command.ofLine line)
          perform surroundings options = (outcome.answer, outcome.events)) := by
  refine ⟨fun line => Session.isExit_iff_keyword, fun line keyword => keyword.letters,
    fun source executor session later => Session.exists_run_iff_finishes, ?_⟩
  intro surroundings options found line chosen given
  refine ⟨perform_silent_iff chosen given, fun stays => ?_⟩
  rw [perform_given chosen given, runCommand_of_not_keyword stays]

/-- A keyword in mixed case, a line that is lowered to one with a dot too many, and a session on a line
with a blank too many, which runs it. -/
theorem only_keywords_end_mixed :
    let surroundings : Surroundings := ⟨"", none, false, [], true, false, none, HostFacts.usual, Host.processes⟩
    let session : Session LineScript Script :=
      ⟨7, ⟨[.ok (some "exit "), .ok (some "qUiT"), .ok none]⟩, ⟨[.ok none], []⟩⟩
    Session.Keyword "qUiT" ∧ "qUiT".length = 4 ∧
      perform surroundings (lineOptions "qUiT") = (.ok (), []) ∧
      ¬ Session.Keyword "ex\u0130t" ∧ Session.isExit "ex\u0130t" = false ∧
      perform surroundings (lineOptions "ex\u0130t") ≠ (.ok (), []) ∧
      (perform surroundings (lineOptions "ex\u0130t")).2.getLast? = some (.failed "ex\u0130t") ∧
      ∃ events, Session.run LineScript.source Script.executor session =
        ⟨.ok (), ⟨8, ⟨[.ok none]⟩, ⟨[], []⟩⟩, events⟩ := by
  intro surroundings session
  obtain ⟨exits, letters, sessions, given⟩ := only_keywords_end
  have keyword : Session.Keyword "qUiT" := by decide
  have dotted : ¬ Session.Keyword "ex\u0130t" := by decide
  have silent := given surroundings (lineOptions "qUiT") _ "qUiT" (launcher_builtin _) rfl
  have told := given surroundings (lineOptions "ex\u0130t") _ "ex\u0130t" (launcher_builtin _) rfl
  have commands : Command.ofLine "ex\u0130t" ≠ [] := by decide
  have finishes : Session.Finishes LineScript.source Script.executor session ["exit "]
      (some "qUiT") ⟨8, ⟨[.ok none]⟩, ⟨[], []⟩⟩ :=
    .continued (by decide) rfl rfl (.ended (by simpa using keyword) rfl)
  refine ⟨keyword, (letters _ keyword).1, silent.1.2 (.inl keyword), dotted, ?_, ?_, ?_,
    (sessions _ _ _ _).2 ⟨_, _, finishes⟩⟩
  · rw [← Bool.not_eq_true, exits]
    exact dotted
  · rw [ne_eq, told.1]
    exact not_or_intro dotted commands
  · rw [told.2 dotted]
    decide +kernel

end Shell

end CommandShell
