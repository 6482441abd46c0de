import CommandShell.Proofs.Diagnosis.Table

/-!
What a diagnosis ends with and what it shows. `Diagnosis.decided_by_requirements` says that its code
and its verdict depend on nothing but what the shell cannot do without, and that both consoles show a
row for each check.
-/

namespace CommandShell

namespace Diagnosis

open Markup

section Pages

variable {failure : Failure} {threshold : Severity}

/-- The rows of a diagnosis are the same for every host. -/
theorem labels_checks (facts : HostFacts) (terminal : Bool) :
    (checks facts terminal).map Check.label =
      ["taskshell", "Python", "loguru", "rich", "questionary", "OS", "terminal"] := by
  have package_label (name : String) (missing : CheckStatus) :
      (package facts name missing).label = name := by
    rw [package]
    cases facts.packages.lookup name with
    | none => rfl
    | some version => rfl
  cases terminal with
  | true => simp [checks, package_label]
  | false => simp [checks, package_label]

theorem ordinary_label (facts : HostFacts) (terminal : Bool) :
    ∀ check ∈ checks facts terminal, Ordinary 12 check.label.toList := by
  have ordinary : ∀ name ∈ ["taskshell", "Python", "loguru", "rich", "questionary", "OS", "terminal"],
      Ordinary 12 name.toList := by
    decide +kernel
  rw [← labels_checks facts terminal, List.forall_mem_map] at ordinary
  exact ordinary

/-- The first word of a text. -/
def leadingWord (text : String) : String := String.ofList (text.toList.takeWhile (· ≠ ' '))

theorem plainStatus_eq (status : CheckStatus) :
    plainStatus status.markup = leadingWord status.words := by
  cases status with
  | fine => decide +kernel
  | tooOld => decide +kernel
  | failed => decide +kernel
  | warned => decide +kernel

/-- A screen without styles with a row for each check, and the verdict behind them. -/
structure PlainPage (checks : List Check) (screen : Screen) : Prop where
  output : screen.output = ""
  error : screen.error = "\n" ++ title ++ "\n" ++ rule '=' ++
    plainRow "Component" "Value" "Status" ++ rule '-' ++
    String.join (checks.map fun check =>
      plainRow check.label check.value (leadingWord check.status.words)) ++
    "\n" ++ verdict (fails checks) ++ "\n"
  last : lastLine? screen.error = some (verdict (fails checks))

/-- A screen with styles with a row for each check, and the verdict behind them. -/
structure StyledPage (checks : List Check) (screen : Screen) : Prop where
  error : screen.error = ""
  output : ∃ valueWidth statusWidth blocks, statusWidth ≤ 22 ∧
    List.Forall₂ (Row valueWidth statusWidth) checks blocks ∧
    screen.output = "\n" ++ tableHead valueWidth statusWidth ++ String.join blocks ++
      frame "└" "─" "┴" "┘" [12, valueWidth, statusWidth] ++ "\n" ++ verdict (fails checks) ++ "\n"
  last : lastLine? screen.output = some (verdict (fails checks))

theorem plainPage (checks : List Check) (threshold : Severity) :
    PlainPage checks (Screen.ofEvents ⟨false, threshold⟩ (report false checks).2) := by
  have shown : (Screen.ofEvents ⟨false, threshold⟩ (report false checks).2).error =
      plainTable checks ++ (verdict (fails checks) ++ "\n" ++ "") := rfl
  simp only [plainTable, plainStatus_eq, String.append_empty, ← String.append_assoc] at shown
  refine ⟨rfl, shown, ?_⟩
  rw [shown]
  exact lastLine?_verdict _ _

/-- A page with styles is shown unless some value cannot be shown. -/
theorem styledPage {checks : List Check} (labels : ∀ check ∈ checks, Ordinary 12 check.label.toList)
    (threshold : Severity) :
    ((report true checks).1 = .ok () ∧
      StyledPage checks (Screen.ofEvents ⟨true, threshold⟩ (report true checks).2)) ∨
    ∃ failure, (report true checks).1 = .error failure ∧ ∃ check ∈ checks, Unshown check failure := by
  rcases styledTable_cases labels with
    ⟨failure, hidden, check, inside, unshown⟩ |
    ⟨valueWidth, statusWidth, blocks, narrow, table, rows⟩
  · have failed : report true checks = (.error failure, [.print .output "\n"]) := by
      simp only [report, hidden, ↓reduceIte]
    exact .inr ⟨failure, by rw [failed], check, inside, unshown⟩
  · have done : report true checks = (.ok (), [.print .output "\n",
        .print .output (tableHead valueWidth statusWidth ++ String.join blocks ++
          frame "└" "─" "┴" "┘" [12, valueWidth, statusWidth]),
        .print .output "\n", .print .output (verdict (fails checks) ++ "\n")]) := by
      simp only [report, table, ↓reduceIte]
    have shown : (Screen.ofEvents ⟨true, threshold⟩ (report true checks).2).output =
        "\n" ++ ((tableHead valueWidth statusWidth ++ String.join blocks ++
          frame "└" "─" "┴" "┘" [12, valueWidth, statusWidth]) ++
            ("\n" ++ (verdict (fails checks) ++ "\n" ++ ""))) := by
      rw [done]
      rfl
    have silent : (Screen.ofEvents ⟨true, threshold⟩ (report true checks).2).error = "" := by
      rw [done]
      rfl
    simp only [String.append_empty, ← String.append_assoc] at shown
    refine .inl ⟨by rw [done], silent, ⟨valueWidth, statusWidth, blocks, narrow, rows, shown⟩, ?_⟩
    rw [shown]
    exact lastLine?_verdict _ _

theorem not_unshown {check : Check} (plainly : Plainly check.value.toList) :
    ¬ Unshown check failure := by
  have shown := styled_of_plainly plainly
  rintro (failed | ⟨value, width, found, failed⟩)
  · cases shown.symm.trans failed
  · cases shown.symm.trans found
    cases failed

end Pages

section Outcome

/-- A diagnosis ends with its code when its page is shown, and otherwise as its failure concludes. -/
theorem runOptions_diagnose {surroundings : Surroundings} {options : Options} {threshold : Severity}
    (diagnoses : options.diagnose = true) :
    let checks := checks surroundings.facts surroundings.terminal
    let shown := report surroundings.styled checks
    let run := Shell.runOptions surroundings options threshold
    (shown.1 = .ok () → run.ending = .ok (Shell.diagnosisCode checks) ∧ run.events = shown.2) ∧
      ∀ failure, shown.1 = .error failure →
        run.ending = (Shell.conclude surroundings.styled (.error failure)).1 := by
  dsimp only
  rcases shown : report surroundings.styled (checks surroundings.facts surroundings.terminal) with
    ⟨failure | _, events⟩
  · refine ⟨fun done => (nomatch done), fun failure' failed => ?_⟩
    cases failed
    simp [Shell.runOptions, diagnoses, shown, Except.map]
  · refine ⟨fun _ => ?_, fun failure' failed => nomatch failed⟩
    simp [Shell.runOptions, diagnoses, shown, Except.map, Shell.conclude]

theorem diagnosisCode_checks (facts : HostFacts) (terminal : Bool) :
    Shell.diagnosisCode (checks facts terminal) = if facts.Unfit then 1 else 0 := by
  by_cases unfit : facts.Unfit
  · rw [Shell.diagnosisCode, if_pos unfit, if_pos ((fails_checks facts terminal).2 unfit)]
    rfl
  · have passes : ¬ fails (checks facts terminal) = true := fun failed =>
      unfit ((fails_checks facts terminal).1 failed)
    rw [Shell.diagnosisCode, if_neg unfit, if_neg passes]
    rfl

/-- A diagnosis has code 1 when the interpreter is below 3.10 or the log package is missing, and
otherwise code 0, and any host for which the same is true has the same code. The verdict says so and
is the last thing said. Both consoles show the verdict behind a row for each check, in one order. A
console without styles always does. A console with styles takes values for markup, and where one
cannot be shown the diagnosis ends with the failure of the value; this never happens to values that
have no tags. -/
theorem decided_by_requirements (facts : HostFacts) (terminal : Bool) :
    let checks := checks facts terminal
    let code := Shell.diagnosisCode checks
    (code = if facts.Unfit then 1 else 0) ∧
    (∀ others terminal', (HostFacts.Unfit others ↔ facts.Unfit) →
      Shell.diagnosisCode (Diagnosis.checks others terminal') = code) ∧
    (verdict (fails checks) = "Some checks failed." ↔ code = 1) ∧
    (∀ threshold, (report false checks).1 = .ok () ∧
      PlainPage checks (Screen.ofEvents ⟨false, threshold⟩ (report false checks).2)) ∧
    (∀ threshold, ((report true checks).1 = .ok () ∧
        StyledPage checks (Screen.ofEvents ⟨true, threshold⟩ (report true checks).2)) ∨
      ∃ failure, (report true checks).1 = .error failure ∧
        ∃ check ∈ checks, Unshown check failure) ∧
    ((∀ check ∈ checks, Plainly check.value.toList) → (report true checks).1 = .ok ()) ∧
    ∀ (surroundings : Surroundings) (options : Options) (threshold : Severity),
      options.diagnose = true → surroundings.facts = facts → surroundings.terminal = terminal →
        let shown := report surroundings.styled checks
        let run := Shell.runOptions surroundings options threshold
        (shown.1 = .ok () → run.ending = .ok code ∧ run.events = shown.2) ∧
          ∀ failure, shown.1 = .error failure →
            run.ending = (Shell.conclude surroundings.styled (.error failure)).1 := by
  have labels := ordinary_label facts terminal
  have decided := diagnosisCode_checks facts terminal
  refine ⟨decided, ?_, ?_, fun threshold => ⟨rfl, plainPage _ threshold⟩, styledPage labels, ?_, ?_⟩
  · intro others terminal' same
    rw [decided, diagnosisCode_checks]
    simp only [same]
  · rw [verdict_eq_iff, decided, fails_checks]
    split
    · simp_all
    · simp_all
  · intro plainly
    rcases styledPage labels .warning with ⟨done, _⟩ | ⟨failure, _, check, inside, unshown⟩
    · exact done
    · exact absurd unshown (not_unshown (plainly check inside))
  · rintro surroundings options threshold diagnoses rfl rfl
    exact runOptions_diagnose diagnoses

/-- Texts that look like statuses decide nothing. -/
theorem decided_by_requirements_texts :
    let facts : HostFacts := ⟨[3, 12, 1], [("loguru", "FAIL")], "WARN", "FAIL", "OK"⟩
    Shell.diagnosisCode (checks facts false) = 0 ∧ (report true (checks facts false)).1 = .ok () := by
  intro facts
  obtain ⟨decided, _, _, _, _, shows, _⟩ := decided_by_requirements facts false
  have fit : ¬ facts.Unfit := by decide +kernel
  have bracketless : ∀ check ∈ checks facts false, '[' ∉ check.value.toList := by decide +kernel
  exact ⟨decided.trans (if_neg fit),
    shows fun check inside => plainly_of_bracketless (bracketless check inside)⟩

/-- A closing tag in the name of a release closes nothing. -/
theorem styled_closing : styled "Linux [/] (x86_64)".toList = .error (.nothingToClose 6) := by
  have text : "Linux [/] (x86_64)".toList =
      "Linux ".toList ++ '[' :: (['/'] ++ ']' :: " (x86_64)".toList) := by decide +kernel
  have before : Wordy "Linux ".toList := ⟨by decide, by decide⟩
  have tagged : tokens "Linux [/] (x86_64)".toList = plain "Linux ".toList ++
      .tag 6 ['/'] :: tokensFrom 9 [] 0 " (x86_64)".toList := by
    rw [tokens, text, tokensFrom_append before.bracketless before.slashless,
      tokensFrom_tag (by decide) (by decide) rfl]
    rfl
  rw [styled, tagged, styledFrom_plain]
  rfl

/-- A host that lacks nothing can have a diagnosis without a page and without a verdict. -/
theorem report_not_closing :
    let facts : HostFacts := { HostFacts.usual with release := "[/]" }
    ¬ facts.Unfit ∧ ∃ failure, (report true (checks facts true)).1 = .error failure := by
  intro facts
  refine ⟨by decide +kernel, ?_⟩
  have system : ⟨"OS", "Linux [/] (x86_64)", .fine⟩ ∈ checks facts true := by decide +kernel
  rcases styledTable_cases (ordinary_label facts true) with
    ⟨failure, hidden, _⟩ | ⟨valueWidth, statusWidth, blocks, _, _, rows⟩
  · exact ⟨failure, by simp only [report, hidden, ↓reduceIte]⟩
  · obtain ⟨block, _, row⟩ := exists_mem_of_forall₂ rows system
    obtain ⟨value, _, _, shown, _, _⟩ := row.lines
    cases styled_closing.symm.trans shown

end Outcome

end Diagnosis

end CommandShell
