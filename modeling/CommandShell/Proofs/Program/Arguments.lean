import CommandShell.Program
import CommandShell.Proofs.Number.Decimal
import CommandShell.Proofs.Text.Printable
import CommandShell.Proofs.Text.Quoted

/-!
What programs make of their arguments. `pingPong_law` and `sleep_law` say for every list of
arguments which course `pingPong` and `sleep` take, by the grammars of the numbers that they read.
-/

namespace CommandShell

/-- The failure of a program that raises one. -/
def Ending.failure? : Ending → Option Failure
  | .raised failure => some failure
  | _ => none

/-- The durations that the clock is called with, in order. The last one may be refused, which ends the
course. -/
def Course.sleepCalls (course : Course) : List Binary64 :=
  course.deeds.filterMap Deed.sleep? ++ (course.ending.failure?.bind Failure.refusedSleep?).toList

namespace Program

section Complaints

/-- The first of some arguments spells no value. -/
inductive Misspelled {A : Type} (Spells : A → List Char → Prop) :
    String → List String → Prop where
  | intro {argument : String} (others : List String)
      (never : ∀ value, ¬ Spells value argument.toList) :
      Misspelled Spells argument (argument :: others)

/-- The value that the first of some arguments spells. Without arguments it is the default. -/
inductive Given {A : Type} (default : A) (Spells : A → List Char → Prop) :
    A → List String → Prop where
  | missing : Given default Spells default []
  | first {value : A} {argument : String} (others : List String)
      (spells : Spells value argument.toList) : Given default Spells value (argument :: others)

/-- A course that complains of an argument on a line of its own and does nothing else. -/
structure Complains (start argument : String) (course : Course) : Prop where
  course_eq : course = .free [.write (start ++ quoted argument ++ "\n")] (.returned (some 2))
  single_line : Text.Printable (start ++ quoted argument).toList

variable {A : Type} {default : A} {Spells : A → List Char → Prop} {arguments : List String}

theorem given_or_misspelled (default : A) (Spells : A → List Char → Prop)
    (arguments : List String) :
    (∃ value, Given default Spells value arguments) ∨
      ∃ argument, Misspelled Spells argument arguments := by
  cases arguments with
  | nil => exact .inl ⟨default, .missing⟩
  | cons argument others =>
      by_cases spells : ∃ value, Spells value argument.toList
      · obtain ⟨value, spells⟩ := spells
        exact .inl ⟨value, .first others spells⟩
      · exact .inr ⟨argument, .intro others (not_exists.1 spells)⟩

theorem complains {start : String} (printable : Text.Printable start.toList) (argument : String) :
    Complains start argument
      (.free [.write (start ++ quoted argument ++ "\n")] (.returned (some 2))) := by
  refine ⟨rfl, ?_⟩
  rw [String.toList_append, Text.printable_append]
  exact ⟨printable, printable_quoted argument⟩

/-- A complaint is of one argument only. -/
theorem Complains.argument_eq {start first second : String} {course : Course}
    (complains : Complains start first course) (complains' : Complains start second course) :
    first = second := by
  have same := complains.course_eq.symm.trans complains'.course_eq
  injection same with _ deeds _
  have texts : start ++ quoted first ++ "\n" = start ++ quoted second ++ "\n" :=
    Deed.write.inj (List.cons.inj deeds).1
  rw [← String.toList_inj, String.toList_append, String.toList_append, String.toList_append,
    String.toList_append, List.append_left_inj, List.append_right_inj, String.toList_inj] at texts
  exact quoted_injective texts

end Complaints

section Clock

/-- The failure that the clock has of a refused sleep names its duration. -/
theorem refusedSleep?_of_sleepFailure? {duration : Binary64} {failure : Failure}
    (refused : duration.sleepFailure? = some failure) : failure.refusedSleep? = some duration := by
  unfold Binary64.sleepFailure? at refused
  repeat' split at refused
  all_goals cases refused
  all_goals rfl

end Clock

section PingPong

/-- The failure that ends a round. A quotient that is too large fails before the clock does. -/
def roundFailure : Binary64 → Failure → Failure
  | .infinite _, _ => .quotientTooLarge
  | _, failure => failure

def round (word : String) (duration : Binary64) : List Deed :=
  [.write (word ++ " "), .flush, .sleep duration]

/-- Five rounds and a line end, or the start of a round that fails. -/
structure Rounds (word : String) (duration : Binary64) (course : Course) : Prop where
  accepted : duration.sleepFailure? = none →
    course = .free ((List.replicate 5 (round word duration)).flatten ++ [.write "\n"])
      (.returned (some 0))
  refused : ∀ failure, duration.sleepFailure? = some failure →
    course = .free [.write (word ++ " "), .flush] (.raised (roundFailure duration failure))

theorem rounds_ok (word : String) (duration : Binary64) (count : ℕ) :
    rounds word (.ok (.sleep duration)) count =
      .free ((List.replicate count (round word duration)).flatten ++ [.write "\n"])
        (.returned (some 0)) := by
  induction count with
  | zero => rfl
  | succ count ih =>
      rw [rounds, ih, List.replicate_succ, List.flatten_cons, List.append_assoc]
      rfl

theorem bind_pause (delay : ℤ) :
    (milliseconds delay).bind pause =
      let duration := Binary64.ofRatio (delay < 0) delay.natAbs 1000
      match duration.sleepFailure? with
      | none => .ok (.sleep duration)
      | some failure => .error (roundFailure duration failure) := by
  unfold milliseconds
  cases Binary64.ofRatio (delay < 0) delay.natAbs 1000 with
  | infinite negative => rfl
  | nan => rfl
  | finite negative significand exponent =>
      dsimp only [Except.bind]
      unfold pause
      cases Binary64.sleepFailure? (.finite negative significand exponent) with
      | none => rfl
      | some failure => rfl

theorem pingPong_of_given {word : String} {others : List String} {delay : ℤ}
    (given : Given 100 Literal.SpellsInteger delay others) :
    pingPong (word :: others) = rounds word ((milliseconds delay).bind pause) 5 := by
  cases given with
  | missing => rfl
  | first others spells =>
      simp only [pingPong]
      rw [Literal.integer?_eq_some_iff.2 spells]
      rfl

theorem pingPong_of_misspelled {word delay : String} {others : List String}
    (misspelled : Misspelled Literal.SpellsInteger delay others) :
    pingPong (word :: others) =
      .free [.write ("PingPong: invalid delay " ++ quoted delay ++ "\n")] (.returned (some 2)) := by
  cases misspelled with
  | intro others never =>
      simp only [pingPong]
      rw [Literal.integer?_eq_none_iff.2 never]
      rfl

theorem rounds_of_given {word : String} {others : List String} {delay : ℤ}
    (given : Given 100 Literal.SpellsInteger delay others) :
    Rounds word (.ofRatio (delay < 0) delay.natAbs 1000) (pingPong (word :: others)) := by
  rw [pingPong_of_given given, bind_pause]
  dsimp only
  generalize Binary64.ofRatio (delay < 0) delay.natAbs 1000 = duration
  constructor
  · intro accepted
    rw [accepted]
    exact rounds_ok word duration 5
  · intro failure refused
    rw [refused]
    rfl

end PingPong

section Sleep

/-- One call of the clock, which may refuse the duration. -/
def call (duration : Binary64) : Course :=
  match duration.sleepFailure? with
  | none => .free [.sleep duration] (.returned (some 0))
  | some failure => .free [] (.raised failure)

/-- The course of `sleep` by its arguments. -/
structure SleepLaw (arguments : List String) (course : Course) : Prop where
  complains_iff : ∀ argument, Complains "sleep: invalid time interval " argument course ↔
    Misspelled Literal.SpellsDouble argument arguments
  calls : ∀ seconds : Binary64, Given (.zero false) Literal.SpellsDouble seconds arguments →
    course = call (if seconds.signedMagnitude < 0 then .zero false else seconds)
  asked : ∀ seconds : Binary64, Given (.zero false) Literal.SpellsDouble seconds arguments →
    course.sleepCalls = [if seconds.signedMagnitude < 0 then .zero false else seconds]
  others : course = sleep (arguments.take 1)

theorem notBelowZero_eq (duration : Binary64) :
    notBelowZero duration = if duration.signedMagnitude < 0 then .zero false else duration := by
  unfold notBelowZero
  simp only [Binary64.isBelowZero_iff]

theorem call_eq (duration : Binary64) :
    call duration = match pause duration with
      | .ok deed => .free [deed] (.returned (some 0))
      | .error failure => .free [] (.raised failure) := by
  unfold call pause
  cases duration.sleepFailure? with
  | none => rfl
  | some failure => rfl

theorem sleep_of_given {arguments : List String} {seconds : Binary64}
    (given : Given (.zero false) Literal.SpellsDouble seconds arguments) :
    sleep arguments = call (notBelowZero seconds) := by
  -- Unfolded by its equations, the sleep without arguments would be computed here.
  delta sleep
  cases given with
  | missing =>
      dsimp only
      generalize notBelowZero (Binary64.zero false) = duration
      exact (call_eq duration).symm
  | first others spells =>
      dsimp only
      rw [Literal.double?_eq_some_iff.2 spells]
      exact (call_eq _).symm

theorem sleep_of_misspelled {arguments : List String} {argument : String}
    (misspelled : Misspelled Literal.SpellsDouble argument arguments) :
    sleep arguments =
      .free [.write ("sleep: invalid time interval " ++ quoted argument ++ "\n")]
        (.returned (some 2)) := by
  delta sleep
  cases misspelled with
  | intro others never =>
      dsimp only
      rw [Literal.double?_eq_none_iff.2 never]
      dsimp only
      rw [List.headD_cons]

theorem not_complains_call (start argument : String) (duration : Binary64) :
    ¬ Complains start argument (call duration) := by
  intro complains
  have same := complains.course_eq
  unfold call at same
  cases refused : duration.sleepFailure? with
  | none => rw [refused] at same; cases same
  | some failure => rw [refused] at same; cases same

/-- The clock is called once, whether it refuses the duration or not. -/
theorem sleepCalls_call (duration : Binary64) : (call duration).sleepCalls = [duration] := by
  unfold call
  rcases refused : duration.sleepFailure? with _ | failure
  · rfl
  · have named := refusedSleep?_of_sleepFailure? refused
    simp [Course.sleepCalls, Course.free, Ending.failure?, named]

/-- What `sleep` does for every list of arguments. -/
theorem sleep_law (arguments : List String) : SleepLaw arguments (sleep arguments) := by
  refine ⟨?_, ?_, ?_, ?_⟩
  · intro argument
    constructor
    · intro complained
      rcases given_or_misspelled (.zero false) Literal.SpellsDouble arguments with
        ⟨seconds, given⟩ | ⟨argument', misspelled⟩
      · rw [sleep_of_given given] at complained
        exact absurd complained (not_complains_call _ _ _)
      · rw [sleep_of_misspelled misspelled] at complained
        have printable : Text.Printable "sleep: invalid time interval ".toList :=
          Text.printable_of_all (by decide)
        rwa [complained.argument_eq (complains printable argument')]
    · intro misspelled
      rw [sleep_of_misspelled misspelled]
      exact complains (Text.printable_of_all (by decide)) argument
  · intro seconds given
    rw [sleep_of_given given, notBelowZero_eq]
  · intro seconds given
    rw [sleep_of_given given, notBelowZero_eq, sleepCalls_call]
  · cases arguments with
    | nil => rfl
    | cons argument others => rfl

end Sleep

end Program

end CommandShell
