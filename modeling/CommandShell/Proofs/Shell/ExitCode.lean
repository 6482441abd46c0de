import CommandShell.Proofs.Console.Announcement
import CommandShell.Proofs.LineSource.Stream
import CommandShell.Proofs.Session.Stopping
import CommandShell.Proofs.Shell.Launchers

/-!
Exit codes. `ending_of_leaves` says that a run which is no diagnosis ends as its options, its
surroundings and the answer that stops its session decide, and not as its commands do. The messages
about a failure are shown with markup, and where they cannot be shown there is no exit code.
-/

namespace CommandShell

/-- No bracket opens in the words that tell of a failure. -/
structure Failure.Bracketless (failure : Failure) : Prop where
  kind : '[' ∉ failure.kind.toList
  message : '[' ∉ failure.message.toList
  hint : ∀ hint ∈ failure.hint?, '[' ∉ hint.toList

theorem Failure.Bracketless.summary {failure : Failure} (bracketless : failure.Bracketless) :
    '[' ∉ failure.summary.toList := by
  rw [Failure.summary, String.toList_append, String.toList_append, List.mem_append, List.mem_append,
    not_or, not_or]
  exact ⟨⟨bracketless.kind, by decide⟩, bracketless.message⟩

namespace Shell

section Showable

open Markup

/-- A console can show every message about a failure. -/
def Showable (styled : Bool) (failure : Failure) : Prop :=
  ∀ markup ∈ (concede failure).1, ∃ text, Console.announce styled markup = .ok text

theorem wordy_nil : Wordy [] := ⟨List.not_mem_nil, List.not_mem_nil⟩

theorem toList_error (message : String) : ("[bold red]Error:[/bold red] " ++ message).toList =
    marked [] "bold red".toList "Error:".toList ([' '] ++ message.toList) := by
  have label : "[bold red]Error:[/bold red] ".toList =
      marked [] "bold red".toList "Error:".toList [' '] := by decide
  rw [String.toList_append, label, marked_append]

theorem wordy_error : Wordy "Error:".toList := ⟨by decide, by decide⟩

theorem exists_announce_error {message : String} (bracketless : '[' ∉ message.toList)
    (styled : Bool) :
    ∃ text, Console.announce styled ("[bold red]Error:[/bold red] " ++ message) = .ok text := by
  have after : '[' ∉ [' '] ++ message.toList := by simpa using bracketless
  exact Console.exists_announce (names_of_mem "bold red" (by decide)) wordy_nil wordy_error
    (plainly_of_bracketless after)
    styled (toList_error message)

theorem toList_hint (hint : String) : ("[yellow]Hint:[/yellow] " ++ hint).toList =
    marked [] "yellow".toList "Hint:".toList ([' '] ++ hint.toList) := by
  have label : "[yellow]Hint:[/yellow] ".toList =
      marked [] "yellow".toList "Hint:".toList [' '] := by decide
  rw [String.toList_append, label, marked_append]

theorem wordy_hint : Wordy "Hint:".toList := ⟨by decide, by decide⟩

theorem exists_announce_hint {hint : String} (bracketless : '[' ∉ hint.toList) (styled : Bool) :
    ∃ text, Console.announce styled ("[yellow]Hint:[/yellow] " ++ hint) = .ok text := by
  have after : '[' ∉ [' '] ++ hint.toList := by simpa using bracketless
  exact Console.exists_announce (names_of_mem "yellow" (by decide)) wordy_nil wordy_hint
    (plainly_of_bracketless after)
    styled (toList_hint hint)

theorem toList_unexpected (summary : String) :
    ("[bold red]Unexpected error.[/bold red] Please report this issue.\n  " ++ summary).toList =
      marked [] "bold red".toList "Unexpected error.".toList
        (" Please report this issue.\n  ".toList ++ summary.toList) := by
  have label : "[bold red]Unexpected error.[/bold red] Please report this issue.\n  ".toList =
      marked [] "bold red".toList "Unexpected error.".toList
        " Please report this issue.\n  ".toList := by decide
  rw [String.toList_append, label, marked_append]

theorem bracketless_unexpected : '[' ∉ " Please report this issue.\n  ".toList := by decide

theorem wordy_unexpected : Wordy "Unexpected error.".toList := ⟨by decide, by decide⟩

theorem exists_announce_unexpected {summary : String} (bracketless : '[' ∉ summary.toList)
    (styled : Bool) : ∃ text, Console.announce styled
      ("[bold red]Unexpected error.[/bold red] Please report this issue.\n  " ++ summary) =
        .ok text := by
  have after : '[' ∉ " Please report this issue.\n  ".toList ++ summary.toList := by
    rw [List.mem_append, not_or]
    exact ⟨bracketless_unexpected, bracketless⟩
  exact Console.exists_announce (names_of_mem "bold red" (by decide)) wordy_nil wordy_unexpected
    (plainly_of_bracketless after) styled (toList_unexpected summary)

/-- A message that closes a style before it opens one is not shown. -/
theorem exists_refusal_unexpected {summary : String} {words rest : List Char}
    (wordy : Wordy words) (shape : summary.toList = words ++ '[' :: '/' :: ']' :: rest) :
    ∃ place, Console.announce true
      ("[bold red]Unexpected error.[/bold red] Please report this issue.\n  " ++ summary) =
        .error (.nothingToClose place) := by
  have behind : Wordy (" Please report this issue.\n  ".toList ++ words) := by
    constructor
    · rw [List.mem_append, not_or]
      exact ⟨bracketless_unexpected, wordy.bracketless⟩
    · rw [List.mem_append, not_or]
      exact ⟨by decide, wordy.slashless⟩
  refine Console.exists_refusal (names_of_mem "bold red" (by decide)) wordy_nil wordy_unexpected
    behind rest ?_
  rw [toList_unexpected, shape, List.append_assoc]
  rfl

theorem exists_announce_aborted (styled : Bool) :
    ∃ text, Console.announce styled "\n[yellow]Aborted by user.[/yellow]" = .ok text := by
  have whole : "\n[yellow]Aborted by user.[/yellow]".toList =
      marked ['\n'] "yellow".toList "Aborted by user.".toList [] := by decide
  have before : Wordy ['\n'] := ⟨by decide, by decide⟩
  have words : Wordy "Aborted by user.".toList := ⟨by decide, by decide⟩
  exact Console.exists_announce (names_of_mem "yellow" (by decide)) before words
    (plainly_of_bracketless List.not_mem_nil) styled whole

variable {styled : Bool} {failure : Failure}

theorem showable_unstyled (failure : Failure) : Showable false failure := fun _ _ => ⟨_, rfl⟩

theorem showable_of_isInterruption (interrupts : failure.isInterruption = true) :
    Showable styled failure := by
  cases failure with
  | interrupted message =>
      intro markup inside
      obtain rfl : markup = "\n[yellow]Aborted by user.[/yellow]" := by
        simpa [concede, Failure.family?, Failure.isInterruption] using inside
      exact exists_announce_aborted styled
  | _ => cases interrupts

theorem showable_of_bracketless (bracketless : failure.Bracketless) : Showable styled failure := by
  intro markup inside
  rcases family : failure.family? with _ | family
  · by_cases interrupts : failure.isInterruption = true
    · exact showable_of_isInterruption interrupts markup inside
    · simp only [concede, family, interrupts, Bool.false_eq_true, ↓reduceIte,
        List.mem_singleton] at inside
      rw [inside]
      exact exists_announce_unexpected bracketless.summary styled
  · simp only [concede, family, List.mem_cons] at inside
    rcases inside with rfl | more
    · exact exists_announce_error bracketless.message styled
    · rcases advice : failure.hint? with _ | hint
      · simp [advice] at more
      · by_cases empty : hint.isEmpty = true
        · simp only [advice, empty, ↓reduceIte, List.not_mem_nil] at more
        · simp only [advice, empty, Bool.false_eq_true, ↓reduceIte, List.mem_singleton] at more
          rw [more]
          exact exists_announce_hint (bracketless.hint hint advice) styled

end Showable

section Conclude

variable {styled : Bool} {failure : Failure}

theorem announceAll_shown {code : Nat} {markups : List String}
    (shows : ∀ markup ∈ markups, ∃ text, Console.announce styled markup = .ok text) :
    (announceAll styled code markups).1 = .ok code := by
  induction markups with
  | nil => rfl
  | cons markup rest ih =>
      obtain ⟨text, shown⟩ := shows markup List.mem_cons_self
      rw [announceAll, shown]
      exact ih fun other inside => shows other (List.mem_cons_of_mem _ inside)

/-- The first message that cannot be shown ends the announcement with its own failure. -/
theorem announceAll_refused {code : Nat} {markups : List String}
    (refuses : ∃ markup ∈ markups, ∀ text, Console.announce styled markup ≠ .ok text) :
    ∃ markup ∈ markups, ∃ refusal, Console.announce styled markup = .error refusal ∧
      (announceAll styled code markups).1 = .error refusal := by
  induction markups with
  | nil => simp at refuses
  | cons markup rest ih =>
      rcases announced : Console.announce styled markup with refusal | text
      · exact ⟨markup, List.mem_cons_self, refusal, announced, by rw [announceAll, announced]⟩
      · have later : ∃ other ∈ rest, ∀ text, Console.announce styled other ≠ .ok text := by
          obtain ⟨other, inside, never⟩ := refuses
          rcases List.mem_cons.1 inside with rfl | further
          · exact absurd announced (never text)
          · exact ⟨other, further, never⟩
        obtain ⟨other, inside, refusal, announced', ends⟩ := ih later
        refine ⟨other, List.mem_cons_of_mem _ inside, refusal, announced', ?_⟩
        rw [announceAll, announced]
        exact ends

theorem conclude_shown (answered : failure.isFatal = false) (shows : Showable styled failure) :
    (conclude styled (.error failure)).1 = .ok (concede failure).2 := by
  rw [conclude, answered, if_neg Bool.false_ne_true]
  exact announceAll_shown shows

theorem conclude_refused (answered : failure.isFatal = false)
    (hides : ¬ Showable styled failure) :
    ∃ markup ∈ (concede failure).1, ∃ refusal, Console.announce styled markup = .error refusal ∧
      (conclude styled (.error failure)).1 = .error refusal := by
  rw [conclude, answered, if_neg Bool.false_ne_true]
  apply announceAll_refused
  simpa [Showable] using hides

theorem announceAll_prints (styled : Bool) (code : Nat) (markups : List String) :
    Event.closed ∉ (announceAll styled code markups).2 := by
  induction markups with
  | nil => exact List.not_mem_nil
  | cons markup rest ih =>
      rcases announced : Console.announce styled markup with refusal | text
      · simp [announceAll, announced]
      · simp [announceAll, announced, ih]

/-- What is said about a failure is no farewell. -/
theorem conclude_not_closed (styled : Bool) (answer : Except Failure Nat) :
    Event.closed ∉ (conclude styled answer).2 := by
  rcases answer with failure | code
  · by_cases fatal : failure.isFatal = true
    · simp [conclude, fatal]
    · rw [conclude, if_neg fatal]
      exact announceAll_prints styled _ _
  · simp [conclude]

end Conclude

section Leaves

variable {surroundings : Surroundings} {options : Options} {name : Given}
  {processes : Processes} {found : Launcher}

/-- The log level and the executor that are asked for are known. -/
structure Ready (surroundings : Surroundings) (options : Options) : Prop where
  level : ∃ threshold,
    Severity.threshold options.verbose surroundings.levelSetting? = .ok threshold
  executor : ∃ found, launcher options.executor surroundings.processes = .ok found

/-- A session reads from the interactive prompt. -/
structure Asks (surroundings : Surroundings) (options : Options) : Prop where
  command : options.command? = none
  plain : options.plain = false
  terminal : surroundings.terminal = true

/-- A session reads from the input as a stream. -/
structure Listens (surroundings : Surroundings) (options : Options) : Prop where
  command : options.command? = none
  stream : options.plain = true ∨ surroundings.terminal = false

/-- How the work of a run ends that is no diagnosis. A line that is given is always done, and a
session ends as its reading stops. -/
inductive Leaves (surroundings : Surroundings) (options : Options) : Except Failure Unit → Prop
  | levelUnknown {failure : Failure}
      (level : Severity.threshold options.verbose surroundings.levelSetting? = .error failure) :
      Leaves surroundings options (.error failure)
  | executorUnknown {threshold : Severity} {failure : Failure}
      (level : Severity.threshold options.verbose surroundings.levelSetting? = .ok threshold)
      (unknown : launcher options.executor surroundings.processes = .error failure) :
      Leaves surroundings options (.error failure)
  | lineMissing (ready : Ready surroundings options) (given : options.command? = some .nothing) :
      Leaves surroundings options (.error .noLine)
  | lineDone {line : String} (ready : Ready surroundings options)
      (given : options.command? = some (.text line)) : Leaves surroundings options (.ok ())
  | promptMissing (ready : Ready surroundings options) (asks : Asks surroundings options)
      (missing : surroundings.promptInstalled = false) :
      Leaves surroundings options (.error .promptMissing)
  | prompted {answer : Except Failure (Option String)} (ready : Ready surroundings options)
      (asks : Asks surroundings options) (installed : surroundings.promptInstalled = true)
      (stops : Session.Stops Prompter.source 1 ⟨surroundings.answers⟩ answer) :
      Leaves surroundings options (answer.map fun _ => ())
  | piped {answer : Except Failure (Option String)} (ready : Ready surroundings options)
      (listens : Listens surroundings options)
      (stops : Session.Stops LineStream.source 1
        (LineStream.ofText true surroundings.input surroundings.inputFailure?) answer) :
      Leaves surroundings options (answer.map fun _ => ())

theorem exists_leaves (surroundings : Surroundings) (options : Options) :
    ∃ answer, Leaves surroundings options answer := by
  rcases level : Severity.threshold options.verbose surroundings.levelSetting? with
    failure | threshold
  · exact ⟨_, .levelUnknown level⟩
  · rcases executor : launcher options.executor surroundings.processes with failure | found
    · exact ⟨_, .executorUnknown level executor⟩
    · have ready : Ready surroundings options := ⟨⟨threshold, level⟩, ⟨found, executor⟩⟩
      rcases command : options.command? with _ | line | _
      · by_cases asks : options.plain = false ∧ surroundings.terminal = true
        · rcases installed : surroundings.promptInstalled with _ | _
          · exact ⟨_, .promptMissing ready ⟨command, asks.1, asks.2⟩ installed⟩
          · obtain ⟨answer, stops⟩ := Session.exists_stops Prompter.source 1 ⟨surroundings.answers⟩
            exact ⟨_, .prompted ready ⟨command, asks.1, asks.2⟩ installed stops⟩
        · have stream : options.plain = true ∨ surroundings.terminal = false := by
            rcases stated : options.plain with _ | _
            · exact .inr (by simpa [stated] using asks)
            · exact .inl rfl
          obtain ⟨answer, stops⟩ := Session.exists_stops LineStream.source 1
            (LineStream.ofText true surroundings.input surroundings.inputFailure?)
          exact ⟨_, .piped ready ⟨command, stream⟩ stops⟩
      · exact ⟨_, .lineDone ready command⟩
      · exact ⟨_, .lineMissing ready command⟩

/-- A session ends as its reading stops, and says no farewell when it fails. -/
theorem exists_runSession {Lines : Type} {source : LineSource Lines} {lines : Lines}
    {answer : Except Failure (Option String)} (chosen : launcher name processes = .ok found)
    (reads : ∀ prompt, (source.read prompt).Emits (· ≠ .closed))
    (stops : Session.Stops source 1 lines answer) (executorName sourceName : String) :
    ∃ events, runSession executorName sourceName found source lines =
        (answer.map fun _ => (), events) ∧
      ∀ failure, (answer.map fun _ => ()) = .error failure → .closed ∉ events := by
  have runs (commands : List Command) (tasks : TaskTable) (settled : tasks.Settled) :=
    settled.exists_run (immediate_of_launcher chosen) commands
  obtain ⟨later, told, goes⟩ := stops.exists_loop runs TaskTable.settled_empty
  have ran : Session.run source (TaskTable.executor found)
      (Session.fresh lines TaskTable.empty) =
        ⟨answer.map fun _ => (), later, .log .main .sessionStarted :: told⟩ :=
    Outcome.after_eq_iff.2 ⟨told, goes, rfl⟩
  refine ⟨_, by rw [runSession, ran], ?_⟩
  intro failure failed
  rw [failed] at goes
  have silent := Session.not_closed_of_loop reads (run_ne_closed chosen) goes
  simp [silent]

/-- A line that is given runs to its end, with all its tasks. -/
theorem exists_runCommand_of_launcher (chosen : launcher name processes = .ok found) (line : String) :
    ∃ tasks events, runCommand found line = ⟨.ok (), tasks, events⟩ := by
  by_cases exits : Session.isExit line = true
  · exact ⟨_, _, by rw [runCommand, if_pos exits]⟩
  · obtain ⟨launches, tasks, told, ran, settled⟩ := TaskTable.settled_empty.exists_run
      (immediate_of_launcher chosen) (Command.ofLine line)
    obtain ⟨left, more, drained⟩ := settled.exists_drain
    have running : Session.runLine (TaskTable.executor found) line
        (Session.fresh () TaskTable.empty) = ⟨.ok launches, ⟨2, (), tasks⟩, told⟩ :=
      Session.runLine_eq_ok_iff.2 ⟨tasks, ran, rfl⟩
    refine ⟨left, told ++ more, ?_⟩
    simp only [runCommand, exits, Bool.false_eq_true, ↓reduceIte, running, drained]
    rfl

theorem stream_ne_closed (prompt : String) :
    (LineStream.source.read prompt).Emits (· ≠ .closed) := by
  intro stream event inside
  rw [LineStream.read_events] at inside
  have either : event = .deed (.write prompt) ∨ event = .deed .flush := by simpa using inside
  rcases either with rfl | rfl <;> simp

theorem prompter_ne_closed (prompt : String) :
    (Prompter.source.read prompt).Emits (· ≠ .closed) := by
  intro prompter event inside
  rw [Prompter.read_events, List.mem_singleton] at inside
  simp [inside]

/-- Once the log level is known, the work of a run ends as it must. -/
theorem Leaves.exists_perform {threshold : Severity} {answer : Except Failure Unit}
    (leaves : Leaves surroundings options answer)
    (level : Severity.threshold options.verbose surroundings.levelSetting? = .ok threshold) :
    ∃ events, perform surroundings options = (answer, events) ∧
      ∀ failure, answer = .error failure → .closed ∉ events := by
  cases leaves with
  | levelUnknown unknown => cases level.symm.trans unknown
  | executorUnknown _ unknown => exact ⟨[], by simp [perform, unknown], by simp⟩
  | lineMissing ready given =>
      obtain ⟨found, chosen⟩ := ready.executor
      exact ⟨[], by simp [perform, chosen, given], by simp⟩
  | @lineDone line ready given =>
      obtain ⟨found, chosen⟩ := ready.executor
      obtain ⟨tasks, events, ran⟩ := exists_runCommand_of_launcher chosen line
      exact ⟨events, by simp [perform, chosen, given, ran], by simp⟩
  | promptMissing ready asks missing =>
      obtain ⟨found, chosen⟩ := ready.executor
      refine ⟨[], ?_, by simp⟩
      simp [perform, chosen, asks.command, asks.plain, asks.terminal, Prompter.open?, missing]
  | prompted ready asks installed stops =>
      obtain ⟨found, chosen⟩ := ready.executor
      obtain ⟨events, ran, silent⟩ := exists_runSession chosen prompter_ne_closed stops
        (executorName options.executor) "QuestionaryLineSource"
      refine ⟨events, ?_, silent⟩
      simpa [perform, chosen, asks.command, asks.plain, asks.terminal, Prompter.open?,
        installed] using ran
  | piped ready listens stops =>
      obtain ⟨found, chosen⟩ := ready.executor
      obtain ⟨events, ran, silent⟩ := exists_runSession chosen stream_ne_closed stops
        (executorName options.executor) "StreamLineSource"
      have stream : (options.plain || !surroundings.terminal) = true := by
        simpa using listens.stream
      refine ⟨events, ?_, silent⟩
      simpa [perform, chosen, listens.command, stream] using ran

variable {answer : Except Failure Unit} {failure : Failure} {arguments : List String}

theorem Ready.level_ne_error (ready : Ready surroundings options) :
    Severity.threshold options.verbose surroundings.levelSetting? ≠ .error failure := by
  obtain ⟨threshold, level⟩ := ready.level
  simp [level]

/-- A log level that is not known stops a run before anything else. -/
theorem Leaves.eq_of_level (leaves : Leaves surroundings options answer)
    (level : Severity.threshold options.verbose surroundings.levelSetting? = .error failure) :
    answer = .error failure := by
  cases leaves with
  | levelUnknown unknown => cases level.symm.trans unknown; rfl
  | executorUnknown known unknown => cases level.symm.trans known
  | lineMissing ready given => exact absurd level ready.level_ne_error
  | lineDone ready given => exact absurd level ready.level_ne_error
  | promptMissing ready asks missing => exact absurd level ready.level_ne_error
  | prompted ready asks installed stops => exact absurd level ready.level_ne_error
  | piped ready listens stops => exact absurd level ready.level_ne_error

theorem Leaves.unique {other : Except Failure Unit} (first : Leaves surroundings options answer)
    (second : Leaves surroundings options other) : answer = other := by
  rcases level : Severity.threshold options.verbose surroundings.levelSetting? with
    failure | threshold
  · rw [first.eq_of_level level, second.eq_of_level level]
  · obtain ⟨_, performed, _⟩ := first.exists_perform level
    obtain ⟨_, performed', _⟩ := second.exists_perform level
    exact congrArg Prod.fst (performed.symm.trans performed')

/-- A run concludes with what its work leaves. -/
theorem Leaves.exists_run (leaves : Leaves surroundings options answer)
    (parsed : Options.parse arguments = .ok options) (works : options.diagnose = false) :
    ∃ events, (∀ failure, answer = .error failure → .closed ∉ events) ∧
      let concluded := conclude surroundings.styled (answer.map fun _ => successCode)
      (run surroundings arguments).ending = concluded.1 ∧
        (run surroundings arguments).events = events ++ concluded.2 := by
  rcases level : Severity.threshold options.verbose surroundings.levelSetting? with
    failure | threshold
  · obtain rfl := leaves.eq_of_level level
    refine ⟨[], by simp, ?_⟩
    simp [run, parsed, level, Except.map]
  · obtain ⟨events, performed, silent⟩ := leaves.exists_perform level
    refine ⟨events, silent, ?_⟩
    simp [run, parsed, level, runOptions, works, performed]

end Leaves

/-- A failure that belongs to a family is answered by 1, an interruption by 130 and any other failure
by 2. -/
theorem concede_code (failure : Failure) : (concede failure).2 =
    if failure.family?.isSome then 1 else if failure.isInterruption then 130 else 2 := by
  rcases family : failure.family? with _ | family
  · by_cases interrupts : failure.isInterruption = true
    · simp [concede, family, interrupts, interruptCode]
    · simp [concede, family, interrupts, unexpectedCode]
  · simp [concede, family, failureCode]

theorem family?_of_isInterruption {failure : Failure} (interrupts : failure.isInterruption = true) :
    failure.family? = none := by
  cases failure with
  | interrupted message => rfl
  | _ => cases interrupts

/-- A run that is no diagnosis ends as its log level, its executor, its prompt and the answer that
stops its session decide, and in no other way. A session that stops at an exit keyword or at the end
of its input ends well, and so does every line that is given. A failure that stops it is answered by
the code for its kind when the messages about it can be shown, and says no farewell. Without styles,
and where no bracket opens in what is said, they can be shown. Otherwise the failure of the first
message that cannot be shown is what the run ends with. -/
theorem ending_of_leaves (surroundings : Surroundings) (arguments : List String)
    (options : Options) (parsed : Options.parse arguments = .ok options)
    (works : options.diagnose = false) :
    (∃! answer, Leaves surroundings options answer) ∧
    (Leaves surroundings options (.ok ()) → (run surroundings arguments).ending = .ok 0) ∧
    (∀ failure, Leaves surroundings options (.error failure) →
      .closed ∉ (run surroundings arguments).events ∧
      (failure.isFatal = true → (run surroundings arguments).ending = .error failure) ∧
      (failure.isFatal = false →
        (failure.isInterruption = true → (run surroundings arguments).ending = .ok 130) ∧
        (Showable surroundings.styled failure →
          (failure.family?.isSome = true → (run surroundings arguments).ending = .ok 1) ∧
          (failure.family? = none → failure.isInterruption = false →
            (run surroundings arguments).ending = .ok 2)) ∧
        (¬ Showable surroundings.styled failure →
          ∃ markup ∈ (concede failure).1, ∃ refusal,
            Console.announce surroundings.styled markup = .error refusal ∧
              (run surroundings arguments).ending = .error refusal))) ∧
    (Ready surroundings options → Asks surroundings options →
      surroundings.promptInstalled = false → (run surroundings arguments).ending = .ok 1) ∧
    ∀ failure : Failure, surroundings.styled = false ∨ failure.Bracketless →
      Showable surroundings.styled failure := by
  have shown (failure : Failure) (leaves : Leaves surroundings options (.error failure))
      (answered : failure.isFatal = false) (shows : Showable surroundings.styled failure) :
      (run surroundings arguments).ending = .ok (concede failure).2 := by
    obtain ⟨events, _, ending, _⟩ := leaves.exists_run parsed works
    rw [ending]
    exact conclude_shown answered shows
  refine ⟨?_, ?_, ?_, ?_, ?_⟩
  · obtain ⟨answer, leaves⟩ := exists_leaves surroundings options
    exact ⟨answer, leaves, fun other left => left.unique leaves⟩
  · intro leaves
    obtain ⟨events, _, ending, _⟩ := leaves.exists_run parsed works
    exact ending
  · intro failure leaves
    obtain ⟨events, silent, ending, happened⟩ := leaves.exists_run parsed works
    refine ⟨?_, ?_, fun answered => ⟨?_, ?_, ?_⟩⟩
    · rw [happened, List.mem_append, not_or]
      exact ⟨silent failure rfl, conclude_not_closed _ _⟩
    · intro fatal
      rw [ending]
      simp [Except.map, conclude, fatal]
    · intro interrupts
      rw [shown failure leaves answered (showable_of_isInterruption interrupts), concede_code,
        family?_of_isInterruption interrupts, interrupts]
      rfl
    · intro shows
      rw [shown failure leaves answered shows, concede_code]
      refine ⟨fun family => by rw [family]; rfl, fun family interrupts => ?_⟩
      rw [family, interrupts]
      rfl
    · intro hides
      rw [ending]
      exact conclude_refused answered hides
  · intro ready asks missing
    have bracketless : Failure.promptMissing.Bracketless :=
      ⟨by decide, by decide, fun _ inside => nomatch inside⟩
    exact shown _ (.promptMissing ready asks missing) rfl (showable_of_bracketless bracketless)
  · rintro failure (unstyled | bracketless)
    · rw [unstyled]
      exact showable_unstyled failure
    · exact showable_of_bracketless bracketless

/-- Surroundings without a terminal, in which something stands in for the end of the input. -/
def piping (input : String) (failure : Failure) : Surroundings :=
  ⟨input, some failure, false, [], true, true, none, HostFacts.usual, Host.processes⟩

theorem ready_piping (input : String) (failure : Failure) :
    Ready (piping input failure) Options.default := by
  have level : Severity.threshold false none = .ok .warning := by decide
  exact ⟨⟨.warning, level⟩, ⟨Host.launcher, rfl⟩⟩

theorem listens_piping (input : String) (failure : Failure) :
    Listens (piping input failure) Options.default := ⟨rfl, .inr rfl⟩

/-- An interruption after a line that fails is answered by its code, and not at all behind an exit
keyword. -/
theorem ending_of_interruption :
    (run (piping "nosuch [x\n" (.interrupted "")) []).ending = .ok 130 ∧
      .closed ∉ (run (piping "nosuch [x\n" (.interrupted "")) []).events ∧
      (run (piping "Quit\n" (.interrupted "")) []).ending = .ok 0 := by
  have parsed : Options.parse [] = .ok Options.default := rfl
  have interrupted : Session.Stops LineStream.source 1
      (LineStream.ofText true "nosuch [x\n" (some (.interrupted "")))
      (.error (.interrupted "")) := by
    have reading : LineStream.source.read (Session.promptText 1)
        (LineStream.ofText true "nosuch [x\n" (some (.interrupted ""))) =
          ⟨.ok (some "nosuch [x"), ⟨[], some (.interrupted "")⟩, _⟩ := rfl
    exact .later (by decide) reading (.raised rfl)
  have quit : Session.Stops LineStream.source 1
      (LineStream.ofText true "Quit\n" (some (.interrupted ""))) (.ok (some "Quit")) :=
    .ended (Session.ends_some_iff.2 (by decide)) rfl
  have first := ending_of_leaves (piping "nosuch [x\n" (.interrupted "")) [] _ parsed rfl
  have second := ending_of_leaves (piping "Quit\n" (.interrupted "")) [] _ parsed rfl
  have fails := first.2.2.1 _ (.piped (ready_piping _ _) (listens_piping _ _) interrupted)
  exact ⟨(fails.2.2 rfl).1 rfl, fails.1,
    second.2.1 (.piped (ready_piping _ _) (listens_piping _ _) quit)⟩

/-- No exit code answers a failure that nobody expected when what is said about it closes a style
before it opens one. -/
theorem Leaves.exists_refusal {surroundings : Surroundings} {options : Options}
    {arguments : List String} {failure : Failure} {words rest : List Char}
    (leaves : Leaves surroundings options (.error failure))
    (parsed : Options.parse arguments = .ok options) (works : options.diagnose = false)
    (styled : surroundings.styled = true) (answered : failure.isFatal = false)
    (family : failure.family? = none) (goesOn : failure.isInterruption = false)
    (wordy : Markup.Wordy words)
    (shape : failure.summary.toList = words ++ '[' :: '/' :: ']' :: rest) :
    ∃ place, (run surroundings arguments).ending = .error (.nothingToClose place) := by
  obtain ⟨events, _, ending, _⟩ := leaves.exists_run parsed works
  obtain ⟨place, refused⟩ := exists_refusal_unexpected wordy shape
  refine ⟨place, ?_⟩
  rw [ending, styled]
  simp [Except.map, conclude, answered, concede, family, goesOn, announceAll, refused]

/-- A value error whose message is a closing tag has no exit code. -/
theorem ending_of_closingTag :
    Leaves (piping "" (.foreign "ValueError" "[/]")) Options.default
        (.error (.foreign "ValueError" "[/]")) ∧
      ∃ place, (run (piping "" (.foreign "ValueError" "[/]")) []).ending =
          .error (.nothingToClose place) ∧
        (run (piping "" (.foreign "ValueError" "[/]")) []).ending ≠ .ok 2 := by
  have leaves : Leaves (piping "" (.foreign "ValueError" "[/]")) Options.default
      (.error (.foreign "ValueError" "[/]")) :=
    .piped (ready_piping _ _) (listens_piping _ _) (.raised rfl)
  have wordy : Markup.Wordy "ValueError: ".toList := ⟨by decide, by decide⟩
  have parsed : Options.parse [] = .ok Options.default := rfl
  have shape : (Failure.foreign "ValueError" "[/]").summary.toList =
      "ValueError: ".toList ++ ['[', '/', ']'] := rfl
  obtain ⟨place, ending⟩ := leaves.exists_refusal parsed rfl rfl rfl rfl rfl wordy shape
  exact ⟨leaves, place, ending, by simp [ending]⟩

end Shell

end CommandShell
