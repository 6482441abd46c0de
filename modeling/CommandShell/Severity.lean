import CommandShell.Failure
import CommandShell.Text.LetterCase

/-!
The severities of log records and the choice of the least severity that is shown.
-/

namespace CommandShell

/-- How serious a log record is. -/
inductive Severity where
  | trace
  | debug
  | info
  | success
  | warning
  | error
  | critical
  deriving DecidableEq, Repr

namespace Severity

/-- Records are compared by rank. -/
def rank : Severity → Nat
  | .trace => 5
  | .debug => 10
  | .info => 20
  | .success => 25
  | .warning => 30
  | .error => 40
  | .critical => 50

def name : Severity → String
  | .trace => "TRACE"
  | .debug => "DEBUG"
  | .info => "INFO"
  | .success => "SUCCESS"
  | .warning => "WARNING"
  | .error => "ERROR"
  | .critical => "CRITICAL"

/-- Every severity, the least first. -/
def all : List Severity := [.trace, .debug, .info, .success, .warning, .error, .critical]

/-- The severity with a given name, which must be spelled in capitals. -/
def ofName? (name : String) : Option Severity := all.find? (·.name == name)

/-- The name asked for: a verbose shell shows debug records, and otherwise the environment decides,
in any case of letters. -/
def requested (verbose : Bool) (setting? : Option String) : String :=
  if verbose then debug.name
  else upperCase (setting?.getD warning.name)

/-- The least severity shown, unless the name asked for is no severity. -/
def threshold (verbose : Bool) (setting? : Option String) : Except Failure Severity :=
  match ofName? (requested verbose setting?) with
  | some severity => .ok severity
  | none => .error (.unknownLevel (requested verbose setting?) (all.map name))

end Severity

end CommandShell
