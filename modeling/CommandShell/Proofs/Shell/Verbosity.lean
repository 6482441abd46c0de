import CommandShell.Proofs.Console.Entries
import CommandShell.Proofs.Options.Verbose
import CommandShell.Shell

/-!
The log level of a run. It decides which log records are shown, and nothing else: what happens, how
the run ends and every other text stay the same.
-/

namespace CommandShell

/-- The log records and the other texts on the error stream of a run. -/
def Report.errorEntries (report : Report) : List Entry := report.console.errorEntries report.events

/-- The log records of a run on other threads. -/
def Report.workerEntries (report : Report) : List Entry :=
  report.console.workerEntries report.events

/-- The ways to choose the log records that a run shows: the option for debugging in front of its
command line, or a setting around it. -/
inductive Verbosity where
  | verbose
  | setting (level? : Option String)
  deriving DecidableEq, Repr

namespace Verbosity

/-- The least severity that is shown with options that were read. -/
def threshold (options : Options) : Verbosity → Except Failure Severity
  | verbose => Severity.threshold true none
  | setting level? => Severity.threshold options.verbose level?

/-- The shell knows the level that is chosen. A command line that stops the shell chooses none. -/
def Accepted (arguments : List String) (verbosity : Verbosity) : Prop :=
  ∀ options, Options.parse arguments = .ok options →
    ∃ severity, verbosity.threshold options = .ok severity

end Verbosity

namespace Shell

/-- Run the shell with a choice of the log records that it shows. -/
def runWith (surroundings : Surroundings) (arguments : List String) : Verbosity → Report
  | .verbose => run surroundings ("-v" :: arguments)
  | .setting level? => run { surroundings with levelSetting? := level? } arguments

variable {surroundings : Surroundings} {arguments : List String}

theorem runWith_halted {halt : Halt} (stops : Options.parse arguments = .error halt)
    (verbosity : Verbosity) :
    runWith surroundings arguments verbosity = run surroundings arguments := by
  cases verbosity with
  | verbose =>
      rw [runWith, run, run, Options.parse_cons_verbose, stops]
      rfl
  | setting level? =>
      rw [runWith, run, run, stops]

theorem runWith_parsed {options : Options} (parsed : Options.parse arguments = .ok options)
    {verbosity : Verbosity} {severity : Severity}
    (known : verbosity.threshold options = .ok severity) :
    runWith surroundings arguments verbosity =
      { runOptions surroundings options .warning with
        console := ⟨surroundings.styled, severity⟩ } := by
  cases verbosity with
  | verbose =>
      -- The setting is not read where records for debugging are asked for.
      have loud : Severity.threshold options.aloud.verbose surroundings.levelSetting? =
          .ok severity := known
      rw [runWith, run, Options.parse_cons_verbose, parsed]
      simp only [Except.map, loud]
      rfl
  | setting level? =>
      rw [runWith, run, parsed]
      simp only [Verbosity.threshold] at known
      simp only [known]
      rfl

/-- Whatever the verbosity, a run ends in the same way after the same events, with styles or without
them in both. -/
theorem runWith_events {first second : Verbosity} (accepted : first.Accepted arguments)
    (accepted' : second.Accepted arguments) :
    (runWith surroundings arguments first).ending = (runWith surroundings arguments second).ending ∧
      (runWith surroundings arguments first).events =
        (runWith surroundings arguments second).events ∧
      (runWith surroundings arguments first).console.styled =
        (runWith surroundings arguments second).console.styled := by
  rcases parsed : Options.parse arguments with halt | options
  · rw [runWith_halted parsed, runWith_halted parsed]
    exact ⟨rfl, rfl, rfl⟩
  · obtain ⟨severity, known⟩ := accepted options parsed
    obtain ⟨severity', known'⟩ := accepted' options parsed
    rw [runWith_parsed parsed known, runWith_parsed parsed known']
    exact ⟨rfl, rfl, rfl⟩

end Shell

namespace Report

/-- Two runs that differ in nothing but the log records that they show. -/
structure Alike (one two : Report) : Prop where
  ending : one.ending = two.ending
  events : one.events = two.events
  output : one.screen.output = two.screen.output
  questions : one.screen.questions = two.screen.questions
  sleeps : one.screen.sleeps = two.screen.sleeps
  hostOutput : one.screen.hostOutput = two.screen.hostOutput
  /-- The error stream holds the same texts in the same order between its records. -/
  texts : one.errorEntries.filter Entry.isText = two.errorEntries.filter Entry.isText

/-- A run shows those records of another one that are not below its threshold, in their order. -/
structure Restricts (high low : Report) : Prop where
  error : high.errorEntries = low.errorEntries.filter (Entry.reaches high.console.threshold)
  worker : high.workerEntries = low.workerEntries.filter (Entry.reaches high.console.threshold)

variable {one two : Report}

theorem alike_of_events (ending : one.ending = two.ending) (events : one.events = two.events)
    (styled : one.console.styled = two.console.styled) : Alike one two := by
  have unlogged : one.screen.unlogged = two.screen.unlogged := by
    rw [screen, screen, events]
    exact Screen.ofEvents_unlogged styled _
  obtain ⟨output, _, _, sleeps, questions, hostOutput⟩ := Screen.mk.inj unlogged
  refine ⟨ending, events, output, questions, sleeps, hostOutput, ?_⟩
  rw [errorEntries, errorEntries, Console.filter_isText_errorEntries,
    Console.filter_isText_errorEntries, events, styled]

theorem restricts_of_events (events : one.events = two.events)
    (styled : one.console.styled = two.console.styled)
    (ordered : one.console.threshold.rank ≤ two.console.threshold.rank) : Restricts two one := by
  constructor
  · rw [errorEntries, errorEntries, events]
    exact Console.errorEntries_eq_filter styled ordered _
  · rw [workerEntries, workerEntries, events]
    exact Console.workerEntries_eq_filter ordered _

end Report

namespace Shell

/-- Two runs on one command line with any two choices of verbosity that the shell accepts end alike
after the same events, and show the same but for log records. Each shows the records from the
threshold that it chose, so the run with the higher threshold shows a part of the records of the
other one: those that reach its own threshold, in the same order. -/
theorem alike_of_verbosity (surroundings : Surroundings) (arguments : List String)
    (first second : Verbosity) (accepted : first.Accepted arguments)
    (accepted' : second.Accepted arguments) :
    let one := runWith surroundings arguments first
    let two := runWith surroundings arguments second
    one.Alike two ∧
      (∀ options, Options.parse arguments = .ok options →
        first.threshold options = .ok one.console.threshold ∧
          second.threshold options = .ok two.console.threshold) ∧
      (one.console.threshold.rank ≤ two.console.threshold.rank → two.Restricts one) ∧
      ∀ report ∈ [one, two],
        report.screen.error = String.join (report.errorEntries.map Entry.shown) ∧
          report.screen.workerLog = report.workerEntries.flatMap Entry.lines := by
  intro one two
  obtain ⟨ending, events, styled⟩ := @runWith_events surroundings _ _ _ accepted accepted'
  refine ⟨Report.alike_of_events ending events styled, fun options parsed => ?_,
    Report.restricts_of_events events styled,
    fun report _ => ⟨Screen.ofEvents_error _ _, Screen.ofEvents_workerLog _ _⟩⟩
  obtain ⟨severity, known⟩ := accepted options parsed
  obtain ⟨severity', known'⟩ := accepted' options parsed
  have shown : one.console.threshold = severity := by
    simp only [one, runWith_parsed parsed known]
  have shown' : two.console.threshold = severity' := by
    simp only [two, runWith_parsed parsed known']
  exact ⟨shown ▸ known, shown' ▸ known'⟩

/-- A line with a command that does not start and one that raises a failure, once with every record
for debugging and once with errors only. -/
theorem alike_debugging_errorsOnly :
    let surroundings : Surroundings := ⟨"", none, false, [], true, false, none, HostFacts.usual, Host.processes⟩
    let arguments := ["-c", "nope; sleep nan", "--executor", "builtin"]
    let loud := runWith surroundings arguments .verbose
    let quiet := runWith surroundings arguments (.setting (some "error"))
    Verbosity.verbose.Accepted arguments ∧ (Verbosity.setting (some "error")).Accepted arguments ∧
      loud.Alike quiet ∧ quiet.Restricts loud ∧ loud.errorEntries.length = 7 ∧
      quiet.errorEntries = [.text "Error: Failed to execute command: nope\n"] ∧
      quiet.workerEntries =
        [.record (.program "sleep") (.programFailed "sleep" .sleepNotNumber)] := by
  intro surroundings arguments loud quiet
  have debugging : Verbosity.verbose.Accepted arguments := fun _ _ => ⟨.debug, rfl⟩
  have errorsOnly : (Verbosity.setting (some "error")).Accepted arguments := by
    intro options parsed
    rcases aloud : options.verbose with _ | _
    · exact ⟨.error, by rw [Verbosity.threshold, aloud]; rfl⟩
    · exact ⟨.debug, by rw [Verbosity.threshold, aloud]; rfl⟩
  obtain ⟨alike, _, restricts, _⟩ :=
    alike_of_verbosity surroundings arguments .verbose (.setting (some "error")) debugging errorsOnly
  have ordered : loud.console.threshold.rank ≤ quiet.console.threshold.rank := by decide +kernel
  exact ⟨debugging, errorsOnly, alike, restricts ordered, by decide +kernel⟩

end Shell

end CommandShell
