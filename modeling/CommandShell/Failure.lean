import CommandShell.Number.Literal
import CommandShell.Text.Quoted

/-!
Everything that can go wrong, by cause. The kind, the message and the hint of a failure are decided
here and nowhere else.
-/

namespace CommandShell

/-- The families of failures that the shell itself announces. -/
inductive Family where
  | general
  | dispatch
  | unknownExecutor
  | environment
  | environmentCheck
  deriving DecidableEq, Repr

/-- The name a family is shown by. -/
def Family.name : Family → String
  | .general => "TaskShellError"
  | .dispatch => "DispatchError"
  | .unknownExecutor => "UnknownExecutorError"
  | .environment => "EnvironmentError"
  | .environmentCheck => "EnvironmentCheckError"

/-- The wider families of a family, the nearest first. -/
def Family.wider : Family → List Family
  | .general => []
  | .dispatch => [.general]
  | .unknownExecutor => [.general]
  | .environment => [.general]
  | .environmentCheck => [.environment, .general]

/-- What keeps a host program from starting. -/
inductive Obstacle where
  | missing
  | forbidden
  | notDirectory
  | nameTooLong
  | argumentsTooLong
  | nulByte
  deriving DecidableEq, Repr

/-- The text that names an obstacle. -/
def Obstacle.message : Obstacle → String
  | .missing => "No such file or directory"
  | .forbidden => "Permission denied"
  | .notDirectory => "Not a directory"
  | .nameTooLong => "File name too long"
  | .argumentsTooLong => "Argument list too long"
  | .nulByte => "embedded null byte"

/-- What to do about an obstacle. -/
def Obstacle.advice : Obstacle → String
  | .nulByte => "Remove control characters from the command."
  | _ => "Check that the program exists and is executable."

/-- A failure, by its cause. `stated`, `foreign` and `fatal` carry the words of whoever raised
them. -/
inductive Failure where
  | unknownProgram (program : String) (known : List String)
  | cannotStart (program : String) (obstacle : Obstacle)
  | unknownExecutor (name : Option String) (known : List String)
  | unknownLevel (name : String) (known : List String)
  | noTerminal
  | promptMissing
  | noLine
  | sleepBelowZero (duration : Binary64)
  | sleepNotNumber
  | sleepTooLong (duration : Binary64)
  | quotientTooLarge
  | wouldBlock
  | scriptEnded (script : String)
  | interrupted (message : String)
  | inputEnded (message : String)
  | unmatchedTag (tag : String) (place : Nat)
  | nothingToClose (place : Nat)
  | malformedAction (value? : Option String) (parameters problem : String)
  | emptyComponent
  | longComponent (digits : Nat)
  | fatal (kind message : String)
  | stated (family : Family) (message : String) (hint? : Option String)
  | foreign (kind message : String)
  deriving DecidableEq, Repr

namespace Failure

/-- The family of a failure that the shell announces, and none for any other failure. -/
def family? : Failure → Option Family
  | .unknownProgram .. => some .dispatch
  | .cannotStart .. => some .dispatch
  | .unknownExecutor .. => some .unknownExecutor
  | .unknownLevel .. => some .environmentCheck
  | .noTerminal => some .environmentCheck
  | .promptMissing => some .environment
  | .stated family _ _ => some family
  | _ => none

/-- The name of the kind of a failure. -/
def kind : Failure → String
  | .unknownProgram .. => Family.dispatch.name
  | .cannotStart .. => Family.dispatch.name
  | .unknownExecutor .. => Family.unknownExecutor.name
  | .unknownLevel .. => Family.environmentCheck.name
  | .noTerminal => Family.environmentCheck.name
  | .promptMissing => Family.environment.name
  | .noLine => "AttributeError"
  | .sleepBelowZero _ => "ValueError"
  | .sleepNotNumber => "ValueError"
  | .sleepTooLong _ => "OverflowError"
  | .quotientTooLarge => "OverflowError"
  | .wouldBlock => "WouldBlock"
  | .scriptEnded _ => "Exhausted"
  | .interrupted _ => "KeyboardInterrupt"
  | .inputEnded _ => "EOFError"
  | .unmatchedTag .. => "MarkupError"
  | .nothingToClose _ => "MarkupError"
  | .malformedAction .. => "MarkupError"
  | .emptyComponent => "ValueError"
  | .longComponent _ => "ValueError"
  | .fatal kind _ => kind
  | .stated family _ _ => family.name
  | .foreign kind _ => kind

/-- The message of a failure. -/
def message : Failure → String
  | .unknownProgram program _ => "unknown program " ++ quoted program
  | .cannotStart program obstacle => "cannot start " ++ quoted program ++ ": " ++ obstacle.message
  | .unknownExecutor name _ => "Unknown executor " ++ (name.map quoted).getD "[]" ++ "."
  | .unknownLevel name _ => "Unknown log level " ++ quoted name ++ " in $TASKSHELL_LOG_LEVEL."
  | .noTerminal => "The interactive prompt requires a terminal on stdin."
  | .promptMissing => "questionary is not installed. Install with: pip install questionary"
  | .noLine => "'list' object has no attribute 'lower'"
  | .sleepBelowZero _ => "sleep length must be non-negative"
  | .sleepNotNumber => "Invalid value NaN (not a number)"
  | .sleepTooLong _ => "timestamp too large to convert to C _PyTime_t"
  | .quotientTooLarge => "integer division result too large for a float"
  | .wouldBlock => "no completed task"
  | .scriptEnded script => script
  | .interrupted message => message
  | .inputEnded message => message
  | .unmatchedTag tag place =>
      "closing tag '[" ++ tag ++ "]' at position " ++ toString place ++
        " doesn't match any open tag"
  | .nothingToClose place =>
      "closing tag '[/]' at position " ++ toString place ++ " has nothing to close"
  | .malformedAction none parameters problem =>
      "error parsing " ++ quoted parameters ++ "; " ++ problem
  | .malformedAction (some value) parameters problem =>
      "error parsing " ++ quoted value ++ " in " ++ quoted parameters ++ "; " ++ problem
  | .emptyComponent => "invalid literal for int() with base 10: ''"
  | .longComponent digits => Literal.lengthText digits
  | .fatal _ message => message
  | .stated _ message _ => message
  | .foreign _ message => message

/-- The advice that goes with a failure. -/
def hint? : Failure → Option String
  | .unknownProgram _ known => some ("Available programs: " ++ ", ".intercalate known)
  | .cannotStart _ obstacle => some obstacle.advice
  | .unknownExecutor _ known => some ("Choose one of: " ++ ", ".intercalate known)
  | .unknownLevel _ known => some ("Use one of " ++ ", ".intercalate known ++ ".")
  | .noTerminal => some "Pipe commands with --plain, or run a single line with -c."
  | .stated _ _ hint? => hint?
  | _ => none

/-- The duration of the sleep that the clock refused, where that is the cause. -/
def refusedSleep? : Failure → Option Binary64
  | .sleepBelowZero duration => some duration
  | .sleepNotNumber => some .nan
  | .sleepTooLong duration => some duration
  | _ => none

/-- An interruption asks the whole shell to stop. -/
def isInterruption : Failure → Bool
  | .interrupted _ => true
  | _ => false

/-- Nothing but the end of the process answers a fatal failure. -/
def isFatal : Failure → Bool
  | .fatal .. => true
  | _ => false

/-- The kind and the message on one line. -/
def summary (failure : Failure) : String := failure.kind ++ ": " ++ failure.message

end Failure

end CommandShell
