import CommandShell.Proofs.Console.Report
import CommandShell.Shell
import Mathlib.Data.Prod.Lex

/-!
What decides a diagnosis. `Diagnosis.fails_checks` says that a host fails it for an old interpreter or
a missing log package only, and `Diagnosis.lastLine?_verdict` that the verdict is the last thing said.
-/

namespace CommandShell

/-- The first two parts of the version of the interpreter, of which the first one counts more. -/
def HostFacts.version (facts : HostFacts) : ℕ ×ₗ ℕ :=
  toLex (facts.interpreter.headD 0, facts.interpreter.tail.headD 0)

/-- A host lacks something that the shell cannot do without. -/
def HostFacts.Unfit (facts : HostFacts) : Prop :=
  facts.version < toLex (3, 10) ∨ facts.packages.lookup "loguru" = none

instance : DecidablePred HostFacts.Unfit := fun facts =>
  inferInstanceAs (Decidable (facts.version < toLex (3, 10) ∨ facts.packages.lookup "loguru" = none))

namespace Diagnosis

section Decision

variable {facts : HostFacts} {terminal : Bool}

theorem isRecent_eq_false_iff :
    isRecent facts.interpreter = false ↔ facts.version < toLex (3, 10) := by
  rw [isRecent, decide_eq_false_iff_not, HostFacts.version, Prod.Lex.toLex_lt_toLex]
  simp only [leastInterpreter]
  omega

/-- A status that fails a diagnosis. -/
def isFailure (status : CheckStatus) : Bool := decide (status = .tooOld ∨ status = .failed)

theorem occursIn_fail (status : CheckStatus) :
    occursIn "FAIL".toList status.markup.toList = isFailure status := by
  cases status with
  | fine => decide
  | tooOld => decide
  | failed => decide
  | warned => decide

theorem fails_eq (checks : List Check) :
    fails checks = checks.any fun check => isFailure check.status := by
  simp only [fails, occursIn_fail]

theorem isFailure_package (facts : HostFacts) (name : String) (missing : CheckStatus) :
    isFailure (package facts name missing).status =
      ((facts.packages.lookup name).isNone && isFailure missing) := by
  rw [package]
  cases facts.packages.lookup name with
  | none => rfl
  | some version => rfl

theorem isFailure_interpreter (recent : Bool) :
    isFailure (if recent = true then .fine else .tooOld) = !recent := by
  cases recent with
  | true => rfl
  | false => rfl

theorem isFailure_terminal (terminal : Bool) :
    isFailure (if terminal = true then ⟨"terminal", "stdin is a TTY", .fine⟩
      else ⟨"terminal", "stdin is not a TTY (plain prompt)", .warned⟩ : Check).status = false := by
  cases terminal with
  | true => rfl
  | false => rfl

/-- Only what the shell cannot do without counts, whatever else is known about the host. -/
theorem fails_checks (facts : HostFacts) (terminal : Bool) :
    fails (checks facts terminal) = true ↔ facts.Unfit := by
  have fine : isFailure .fine = false := rfl
  have failed : isFailure .failed = true := rfl
  have warned : isFailure .warned = false := rfl
  rw [fails_eq, HostFacts.Unfit, ← isRecent_eq_false_iff]
  simp only [checks, List.any_cons, List.any_nil, isFailure_package, isFailure_interpreter,
    isFailure_terminal, fine, failed, warned, Bool.and_false, Bool.and_true, Bool.or_false,
    Bool.false_or, Bool.or_eq_true, Bool.not_eq_true', Option.isNone_iff_eq_none]

end Decision

section Verdict

/-- The last line of a text that is not blank. -/
def lastLine? (text : String) : Option String :=
  (((Layout.lines text.toList).filter fun line => !line.all Text.isBlank).getLast?).map
    String.ofList

theorem lines_append (text rest : List Char) :
    Layout.lines (text ++ '\n' :: rest) = Layout.lines text ++ Layout.lines rest := by
  simp only [Layout.lines]
  induction text with
  | nil => rfl
  | cons char text ih =>
      rw [List.cons_append, Layout.split, Layout.split, ih]
      by_cases feed : (char == '\n') = true
      · rw [if_pos feed, if_pos feed, List.cons_append]
      · rw [if_neg feed, if_neg feed]
        rcases pieces : Layout.split (· == '\n') text with _ | ⟨first, others⟩
        · exact absurd pieces (Layout.split_ne_nil _ text)
        · rfl

/-- A verdict on a line of its own is the last line of what stands before it. -/
theorem lastLine?_verdict (text : String) (failed : Bool) :
    lastLine? (text ++ "\n" ++ verdict failed ++ "\n") = some (verdict failed) := by
  have whole : (text ++ "\n" ++ verdict failed ++ "\n").toList =
      text.toList ++ '\n' :: (verdict failed ++ "\n").toList := by
    simp [String.toList_append]
  have last : ((Layout.lines (verdict failed ++ "\n").toList).filter fun line =>
      !line.all Text.isBlank) = [(verdict failed).toList] := by
    cases failed with
    | true => decide
    | false => decide
  rw [lastLine?, whole, lines_append, List.filter_append, last, List.getLast?_append]
  simp

theorem verdict_eq_iff {failed : Bool} : verdict failed = "Some checks failed." ↔ failed = true := by
  cases failed with
  | true => decide
  | false => decide

end Verdict

end Diagnosis

end CommandShell
