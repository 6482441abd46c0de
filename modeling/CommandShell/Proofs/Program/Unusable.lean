import CommandShell.Proofs.Number.Clock
import CommandShell.Proofs.Program.Arguments
import CommandShell.Proofs.Shell.LineOutput

/-!
Numbers that a program reads and cannot use: delays and durations that the clock refuses. With any
other arguments the programs that every shell has come to an orderly end, and with these they raise
the failure of the clock.
-/

namespace CommandShell

/-- A course that ends well, or with one line of complaint. The clock refuses no sleep in it. -/
structure Course.Orderly (course : Course) : Prop where
  ending : course.ending = .returned (some 0) ∨
    course.ending = .returned (some 2) ∧
      ∃ line, Text.Printable line.toList ∧ course.deeds = [.write (line ++ "\n")]
  accepted : ∀ duration ∈ course.sleepCalls, duration.sleepFailure? = none

/-- A course that raises a failure which is recorded and stops nothing else. -/
structure Course.Crashes (course : Course) (failure : Failure) : Prop where
  ending : course.ending = .raised failure
  goesOn : failure.isInterruption = false
  answered : failure.isFatal = false

theorem Course.Crashes.not_orderly {course : Course} {failure : Failure}
    (crashes : course.Crashes failure) : ¬ course.Orderly := by
  intro orderly
  have ending := orderly.ending
  simp [crashes.ending] at ending

namespace Program

/-- Words that name a program and give it a number which the clock refuses: a delay below zero, a
duration that is no number, or one that is too long. -/
inductive Unusable : List String → Prop where
  | pingPong {name word : String} {others : List String} {delay : ℤ}
      (named : lowerCase name = "pingpong") (given : Given 100 Literal.SpellsInteger delay others)
      (refused : delay < 0 ∨ Binary64.lastDelay < delay) : Unusable (name :: word :: others)
  | sleep {name : String} {arguments : List String} {seconds : Binary64}
      (named : lowerCase name = "sleep")
      (given : Given (.zero false) Literal.SpellsDouble seconds arguments)
      (refused : seconds = .nan ∨ Binary64.clockBound ≤ seconds.signedMagnitude) :
      Unusable (name :: arguments)

section Clock

variable {duration : Binary64} {failure : Failure}

theorem sleepFailure?_kind (refused : duration.sleepFailure? = some failure) :
    failure.isInterruption = false ∧ failure.isFatal = false := by
  have named := refusedSleep?_of_sleepFailure? refused
  cases failure with
  | interrupted message => cases named
  | fatal kind message => cases named
  | _ => exact ⟨rfl, rfl⟩

theorem roundFailure_kind (refused : duration.sleepFailure? = some failure) :
    (roundFailure duration failure).isInterruption = false ∧
      (roundFailure duration failure).isFatal = false := by
  cases duration with
  | infinite negative => exact ⟨rfl, rfl⟩
  | nan => exact sleepFailure?_kind refused
  | finite negative significand exponent => exact sleepFailure?_kind refused

end Clock

/-- A course that only writes does not call the clock. -/
theorem sleepCalls_write (text : String) (status? : Option ℤ) :
    (Course.free [.write text] (.returned status?)).sleepCalls = [] := rfl

theorem orderly_complaint {start : String} (printable : Text.Printable start.toList)
    (argument : String) : Course.Orderly
      (.free [.write (start ++ quoted argument ++ "\n")] (.returned (some 2))) where
  ending := .inr ⟨rfl, _, (complains printable argument).single_line, rfl⟩
  accepted _ inside := by simp [sleepCalls_write] at inside

theorem orderly_echo (arguments : List String) : (echo arguments).Orderly where
  ending := .inl rfl
  accepted _ inside := by simp [echo, sleepCalls_write] at inside

section PingPong

variable {word : String} {others : List String} {delay : ℤ} {duration : Binary64} {course : Course}

theorem sleepCalls_rounds (word : String) (duration : Binary64) (count : ℕ) (status? : Option ℤ) :
    (Course.free ((List.replicate count (round word duration)).flatten ++ [.write "\n"])
      (.returned status?)).sleepCalls = List.replicate count duration := by
  have slept (count : ℕ) : (List.replicate count (round word duration)).flatten.filterMap
      Deed.sleep? = List.replicate count duration := by
    induction count with
    | zero => rfl
    | succ count ih =>
        rw [List.replicate_succ, List.flatten_cons, List.filterMap_append, ih]
        rfl
  simp [Course.sleepCalls, Course.free, Ending.failure?, slept, Deed.sleep?]

theorem Rounds.orderly (rounds : Rounds word duration course)
    (accepted : duration.sleepFailure? = none) : course.Orderly := by
  rw [rounds.accepted accepted]
  refine ⟨.inl rfl, fun other inside => ?_⟩
  rw [sleepCalls_rounds] at inside
  rwa [List.eq_of_mem_replicate inside]

/-- How often a course writes a word of a round. -/
def wordsWritten (word : String) (course : Course) : ℕ :=
  course.deeds.count (.write (word ++ " "))

/-- A refused delay ends the first round after its word. -/
theorem Rounds.exists_crash (rounds : Rounds word duration course)
    (refused : duration.sleepFailure? ≠ none) :
    wordsWritten word course = 1 ∧ ∃ failure, course.Crashes failure := by
  obtain ⟨failure, clock⟩ := Option.ne_none_iff_exists'.1 refused
  rw [rounds.refused failure clock]
  have kind := roundFailure_kind clock
  exact ⟨by simp [wordsWritten, Course.free], _, rfl, kind.1, kind.2⟩

/-- A line does not end like a word of a round. -/
theorem line_ne_word (line word : String) : line ++ "\n" ≠ word ++ " " := by
  intro same
  have ends := congrArg (fun text : String => text.toList.getLast?) same
  simp at ends

/-- A word is written in every round, and nowhere else. -/
theorem count_rounds (word : String) (duration : Binary64) (count : ℕ) :
    List.count (Deed.write (word ++ " "))
      ((List.replicate count (round word duration)).flatten ++ [.write "\n"]) = count := by
  induction count with
  | zero =>
      have other : "\n" ≠ word ++ " " := line_ne_word "" word
      rw [List.count_eq_zero]
      simp [Ne.symm other]
  | succ count ih =>
      rw [List.replicate_succ, List.flatten_cons, List.append_assoc, List.count_append, ih]
      simp [round, Nat.add_comm]

theorem wordsWritten_complaint (line word : String) (ending : Ending) :
    wordsWritten word (.free [.write (line ++ "\n")] ending) = 0 := by
  have other := line_ne_word line word
  rw [wordsWritten, List.count_eq_zero]
  simp [Course.free, Ne.symm other]

theorem orderly_usage : (pingPong []).Orderly where
  ending := .inr ⟨rfl, "usage: PingPong WORD [DELAY_MS]", Text.printable_of_all (by decide), rfl⟩
  accepted _ inside := by simp [pingPong, sleepCalls_write] at inside

/-- With a delay that the clock accepts all rounds are done. -/
theorem pingPong_of_usable (word : String) (given : Given 100 Literal.SpellsInteger delay others)
    (usable : 0 ≤ delay ∧ delay ≤ Binary64.lastDelay) :
    (pingPong (word :: others)).Orderly ∧ wordsWritten word (pingPong (word :: others)) = 5 := by
  have rounds : Rounds word _ (pingPong (word :: others)) := rounds_of_given given
  have accepted : (Binary64.ofRatio (delay < 0) delay.natAbs 1000).sleepFailure? = none :=
    (Binary64.sleepFailure?_milliseconds (Binary64.nearest_ofRatio _ (by decide))).2 usable
  refine ⟨rounds.orderly accepted, ?_⟩
  rw [rounds.accepted accepted]
  exact count_rounds word _ 5

theorem pingPong_of_unusable (word : String) (given : Given 100 Literal.SpellsInteger delay others)
    (unusable : delay < 0 ∨ Binary64.lastDelay < delay) :
    wordsWritten word (pingPong (word :: others)) = 1 ∧
      ∃ failure, (pingPong (word :: others)).Crashes failure := by
  have rounds : Rounds word _ (pingPong (word :: others)) := rounds_of_given given
  have clock := @Binary64.sleepFailure?_milliseconds delay _
    (Binary64.nearest_ofRatio _ (by decide))
  refine rounds.exists_crash fun accepted => ?_
  have usable := clock.1 accepted
  omega

/-- A delay that is not understood is answered by a complaint, and the word is not written. -/
theorem pingPong_complains {argument : String} (word : String)
    (misspelled : Misspelled Literal.SpellsInteger argument others) :
    (pingPong (word :: others)).Orderly ∧ wordsWritten word (pingPong (word :: others)) = 0 := by
  rw [pingPong_of_misspelled misspelled]
  exact ⟨orderly_complaint (Text.printable_of_all (by decide)) argument,
    wordsWritten_complaint _ word _⟩

/-- A word is written in all rounds, or in the first one, or never. -/
theorem wordsWritten_pingPong (word : String) (others : List String) :
    let course := pingPong (word :: others)
    (course.Orderly → wordsWritten word course = 5 ∨ wordsWritten word course = 0) ∧
      (¬ course.Orderly → wordsWritten word course = 1) := by
  intro course
  rcases given_or_misspelled 100 Literal.SpellsInteger others with
    ⟨delay, given⟩ | ⟨argument, misspelled⟩
  · by_cases usable : 0 ≤ delay ∧ delay ≤ Binary64.lastDelay
    · obtain ⟨orderly, all⟩ := pingPong_of_usable word given usable
      exact ⟨fun _ => .inl all, fun disorderly => absurd orderly disorderly⟩
    · obtain ⟨once, failure, crashes⟩ := pingPong_of_unusable word given (by omega)
      exact ⟨fun orderly => absurd orderly crashes.not_orderly, fun _ => once⟩
  · obtain ⟨orderly, never⟩ := pingPong_complains word misspelled
    exact ⟨fun _ => .inr never, fun disorderly => absurd orderly disorderly⟩

end PingPong

section Sleep

variable {arguments : List String} {seconds : Binary64}

/-- The clock accepts a duration that is a number and not too long; one below zero counts as zero. -/
theorem sleepFailure?_notBelowZero : (notBelowZero seconds).sleepFailure? = none ↔
    ¬ (seconds = .nan ∨ Binary64.clockBound ≤ seconds.signedMagnitude) := by
  rw [Binary64.sleepFailure?_eq_none_iff, notBelowZero_eq]
  split
  · rename_i below
    have zero : (Binary64.zero false).signedMagnitude = 0 := by
      simp [Binary64.zero, Binary64.signedMagnitude, Binary64.isNegative, Binary64.magnitude]
    have number : seconds ≠ .nan := by
      rintro rfl
      exact lt_irrefl _ below
    have short := below.trans Binary64.clockBound_pos
    rw [zero]
    refine iff_of_true ⟨by simp [Binary64.zero], le_rfl, Binary64.clockBound_pos⟩ ?_
    rw [not_or, not_le]
    exact ⟨number, short⟩
  · rename_i above
    rw [not_or, not_le, and_iff_right (not_lt.1 above)]

theorem sleep_of_usable (given : Given (.zero false) Literal.SpellsDouble seconds arguments)
    (usable : ¬ (seconds = .nan ∨ Binary64.clockBound ≤ seconds.signedMagnitude)) :
    (sleep arguments).Orderly := by
  have accepted := sleepFailure?_notBelowZero.2 usable
  have asked := sleepCalls_call (notBelowZero seconds)
  rw [call, accepted] at asked
  rw [sleep_of_given given, call, accepted]
  refine ⟨.inl rfl, fun duration inside => ?_⟩
  rw [asked, List.mem_singleton] at inside
  rwa [inside]

theorem sleep_of_unusable (given : Given (.zero false) Literal.SpellsDouble seconds arguments)
    (unusable : seconds = .nan ∨ Binary64.clockBound ≤ seconds.signedMagnitude) :
    ∃ failure, (sleep arguments).Crashes failure := by
  have refused : (notBelowZero seconds).sleepFailure? ≠ none := fun accepted =>
    sleepFailure?_notBelowZero.1 accepted unusable
  obtain ⟨failure, clock⟩ := Option.ne_none_iff_exists'.1 refused
  have kind := sleepFailure?_kind clock
  rw [sleep_of_given given, call, clock]
  exact ⟨failure, rfl, kind.1, kind.2⟩

end Sleep

section Words

variable {name : String} {words : List String} {course : Course}

theorem standard?_pingPong (named : lowerCase name = "pingpong") :
    standard? name = some pingPong := if_pos named

theorem standard?_sleep (named : lowerCase name = "sleep") : standard? name = some sleep := by
  rw [standard?, named]
  rfl

theorem standard?_cases {program : Program} (found : standard? name = some program) :
    (lowerCase name = "pingpong" ∧ program = pingPong) ∨ program = echo ∨
      (lowerCase name = "sleep" ∧ program = sleep) := by
  unfold standard? at found
  split at found
  · rename_i named
    exact .inl ⟨named, (Option.some.inj found).symm⟩
  · split at found
    · exact .inr (.inl (Option.some.inj found).symm)
    · split at found
      · rename_i named
        exact .inr (.inr ⟨named, (Option.some.inj found).symm⟩)
      · cases found

/-- A program crashes on a number that the clock refuses. -/
theorem Unusable.exists_crash (unusable : Unusable words) :
    ∃ course failure, course? words = some course ∧ course.Crashes failure := by
  cases unusable with
  | @pingPong name word others delay named given refused =>
      obtain ⟨_, failure, crashes⟩ := pingPong_of_unusable word given refused
      exact ⟨_, failure, by rw [course?, standard?_pingPong named]; rfl, crashes⟩
  | @sleep name arguments seconds named given refused =>
      obtain ⟨failure, crashes⟩ := sleep_of_unusable given refused
      exact ⟨_, failure, by rw [course?, standard?_sleep named]; rfl, crashes⟩

theorem orderly_of_usable (found : course? words = some course) (usable : ¬ Unusable words) :
    course.Orderly := by
  rcases words with _ | ⟨name, arguments⟩
  · cases found
  · obtain ⟨program, named, rfl⟩ := Option.map_eq_some_iff.1 found
    rcases standard?_cases named with ⟨called, rfl⟩ | rfl | ⟨called, rfl⟩
    · rcases arguments with _ | ⟨word, others⟩
      · exact orderly_usage
      · rcases given_or_misspelled 100 Literal.SpellsInteger others with
          ⟨delay, given⟩ | ⟨argument, misspelled⟩
        · have counts : 0 ≤ delay ∧ delay ≤ Binary64.lastDelay := by
            by_contra refused
            exact usable (.pingPong called given (by omega))
          exact (pingPong_of_usable word given counts).1
        · exact (pingPong_complains word misspelled).1
    · exact orderly_echo arguments
    · rcases given_or_misspelled (.zero false) Literal.SpellsDouble arguments with
        ⟨seconds, given⟩ | ⟨argument, misspelled⟩
      · exact sleep_of_usable given fun refused => usable (.sleep called given refused)
      · rw [sleep_of_misspelled misspelled]
        exact orderly_complaint (Text.printable_of_all (by decide)) argument

/-- The programs that every shell has come to an orderly end unless they are given a number which
the clock refuses. -/
theorem orderly_iff (found : course? words = some course) : course.Orderly ↔ ¬ Unusable words := by
  constructor
  · intro orderly unusable
    obtain ⟨other, failure, found', crashes⟩ := unusable.exists_crash
    cases found.symm.trans found'
    exact crashes.not_orderly orderly
  · exact orderly_of_usable found

end Words

end Program

end CommandShell
