import CommandShell.Options

/-!
The option for debugging in front of a command line. Words are read after it as they are read without
it, so a command line that stops the shell still stops it in the same way, and any other one gives
the same options but for this one.
-/

namespace CommandShell.Options

section Option

variable {flag last : Flag} {short : Bool} {attached? : Option String} {switches : List Flag}
  {value : String} {rest : List Word} {progress : Progress}

/-- Options take effect, the last one with a value, and the words after it are read. -/
def readAfter (switches : List Flag) (last : Flag) (value : String) (rest : List Word)
    (progress : Progress) : Except Halt Progress := do
  let options ← switchAll switches progress.options
  let options ← assign last value options
  read rest { progress with options := options, targetJustGiven := false }

theorem read_attached (written : unfold flag short attached? = .ok (switches, last, some value))
    (takes : last.takesValue = true) :
    read (.option flag short attached? :: rest) progress =
      readAfter switches last value rest progress := by
  rw [read, written]
  exact if_pos takes

theorem read_separate (written : unfold flag short attached? = .ok (switches, last, none))
    (takes : last.takesValue = true) :
    read (.option flag short attached? :: .value value :: rest) progress =
      readAfter switches last value rest progress := by
  rw [read, written]
  exact if_pos takes

theorem read_missing (written : unfold flag short attached? = .ok (switches, last, none))
    (takes : last.takesValue = true) (none : ∀ value others, rest ≠ .value value :: others) :
    read (.option flag short attached? :: rest) progress =
      .error (.misuse (.valueMissing last)) := by
  rw [read.eq_def]
  simp only [written, orHalt, Bind.bind, Except.bind, takes, ↓reduceIte]

theorem read_switch {value? : Option String}
    (written : unfold flag short attached? = .ok (switches, last, value?))
    (takes : last.takesValue = false) :
    read (.option flag short attached? :: rest) progress =
      switchAll (switches ++ [last]) progress.options >>= fun options =>
        read rest { progress with options := options, targetJustGiven := false } := by
  rw [read.eq_def]
  simp only [written, orHalt, Bind.bind, Except.bind, takes, Bool.false_eq_true, ↓reduceIte]

end Option

/-- The same options with every record for debugging shown. -/
def aloud (options : Options) : Options := { options with verbose := true }

/-- The same progress with every record for debugging shown. -/
def Progress.aloud (progress : Progress) : Progress :=
  { progress with options := progress.options.aloud }

theorem bind_map_aloud {step : Except Halt Options} {next next' : Options → Except Halt Progress}
    (same : ∀ options, next' options.aloud = (next options).map Progress.aloud) :
    (step.map aloud >>= next') = (step >>= next).map Progress.aloud := by
  rcases step with halt | options
  · rfl
  · exact same options

theorem switch_aloud (flag : Flag) (options : Options) :
    switch flag options.aloud = (switch flag options).map aloud := by
  cases flag <;> rfl

theorem switchAll_aloud (flags : List Flag) (options : Options) :
    switchAll flags options.aloud = (switchAll flags options).map aloud := by
  induction flags generalizing options with
  | nil => rfl
  | cons flag rest ih =>
      simp only [switchAll, List.foldlM_cons] at ih ⊢
      rw [switch_aloud]
      rcases switch flag options with halt | options
      · rfl
      · exact ih options

theorem assign_aloud (flag : Flag) (value : String) (options : Options) :
    assign flag value options.aloud = (assign flag value options).map aloud := by
  cases flag with
  | executor =>
      simp only [assign]
      split
      · rfl
      · split <;> rfl
  | _ => rfl

theorem place_aloud (value : String) (progress : Progress) :
    place value progress.aloud = (place value progress).map Progress.aloud := by
  by_cases given : progress.targetGiven
  · simp [place, Progress.aloud, given, Except.map]
  · by_cases known : value ∈ targets
    · simp [place, Progress.aloud, given, known, Except.map, aloud]
    · simp [place, Progress.aloud, given, known, Except.map]

/-- Words are read alike whether records for debugging are shown or not. -/
theorem read_aloud (words : List Word) (progress : Progress) :
    read words progress.aloud = (read words progress).map Progress.aloud := by
  match words with
  | [] => rfl
  | .value value :: rest =>
      simp only [read, place_aloud]
      rcases place value progress with halt | progress
      · rfl
      · exact read_aloud rest progress
  | .unknown text :: rest =>
      rw [read, read]
      exact read_aloud rest
        { progress with targetJustGiven := false, leftover := progress.leftover ++ [text] }
  | .separator :: rest =>
      by_cases extra : progress.targetGiven && !progress.targetJustGiven
      · have extra' : (progress.aloud.targetGiven && !progress.aloud.targetJustGiven) = true := extra
        rw [read, read, if_pos extra, if_pos extra']
        exact read_aloud rest { progress with leftover := progress.leftover ++ ["--"] }
      · have extra' : ¬ (progress.aloud.targetGiven && !progress.aloud.targetJustGiven) = true :=
          extra
        rw [read, read, if_neg extra, if_neg extra']
        exact read_aloud rest { progress with targetJustGiven := false }
  | .option flag short attached? :: rest =>
      rcases written : unfold flag short attached? with misuse | ⟨switches, last, value?⟩
      · simp only [read, written]
        rfl
      · have switched (flags : List Flag) := switchAll_aloud flags progress.options
        rcases takes : last.takesValue with _ | _
        · rw [read_switch written takes, read_switch written takes]
          refine (congrArg (· >>= _) (switched _)).trans (bind_map_aloud fun options => ?_)
          exact read_aloud rest { progress with options := options, targetJustGiven := false }
        · have valued (value : String) (others : List Word)
              (shorter : others.length ≤ rest.length) :
              readAfter switches last value others progress.aloud =
                (readAfter switches last value others progress).map Progress.aloud := by
            refine (congrArg (· >>= _) (switched _)).trans (bind_map_aloud fun options => ?_)
            rw [assign_aloud]
            refine bind_map_aloud fun options => ?_
            exact read_aloud others { progress with options := options, targetJustGiven := false }
          rcases value? with _ | value
          · by_cases next : ∃ value others, rest = .value value :: others
            · obtain ⟨value, others, rfl⟩ := next
              rw [read_separate written takes, read_separate written takes]
              exact valued value others (Nat.le_succ _)
            · have none : ∀ value others, rest ≠ .value value :: others := by simpa using next
              rw [read_missing written takes none, read_missing written takes none]
              rfl
          · rw [read_attached written takes, read_attached written takes]
            exact valued value rest (Nat.le_refl _)
termination_by words.length

/-- The option in front of a command line changes no other option, and no reason to stop. -/
theorem parse_cons_verbose (arguments : List String) :
    parse ("-v" :: arguments) = (parse arguments).map aloud := by
  have spelled : Word.classify "-v" = .ok (.option .verbose true none) := rfl
  have classified : Word.classifyAll ("-v" :: arguments) =
      (Word.classifyAll arguments).map (.option .verbose true none :: ·) := by
    rw [Word.classifyAll, if_neg (by decide), spelled]
    rcases Word.classifyAll arguments with misuse | words
    · rfl
    · rfl
  rw [parse, parse, classified]
  rcases Word.classifyAll arguments with misuse | words
  · rfl
  · have first : read (.option .verbose true none :: words) ⟨default, false, false, []⟩ =
        read words (Progress.aloud ⟨default, false, false, []⟩) := by
      rw [read_switch rfl rfl]
      rfl
    simp only [Except.map, orHalt, Bind.bind, Except.bind, first, read_aloud]
    rcases read words ⟨default, false, false, []⟩ with halt | progress
    · rfl
    · by_cases complete : progress.leftover.isEmpty
      · simp only [Progress.aloud, complete]
        rfl
      · simp only [Progress.aloud, complete]
        rfl

end CommandShell.Options
