import CommandShell.Event
import CommandShell.Number.Literal

/-!
Programs that run inside the shell. A program is a function from its arguments to its whole course:
what it does in order, and how it ends.
-/

namespace CommandShell

/-- How a program ends: with a status, which may be missing, with a failure, or by leaving at once. -/
inductive Ending where
  | returned (status? : Option Int)
  | raised (failure : Failure)
  | left
  deriving DecidableEq, Repr

/-- What a program does from its start to its end. A program may be held at a gate before its first
deed. -/
structure Course where
  gate? : Option String
  deeds : List Deed
  ending : Ending
  deriving DecidableEq, Repr

/-- A course that no gate holds. -/
def Course.free (deeds : List Deed) (ending : Ending) : Course := ⟨none, deeds, ending⟩

/-- A course with deeds before it. -/
def Course.after (deeds : List Deed) (course : Course) : Course :=
  { course with deeds := deeds ++ course.deeds }

/-- A program gets the words after its name. -/
abbrev Program := List String → Course

namespace Binary64

/-- A multiple of a power of two as nanoseconds, when it counts seconds. -/
def nanoseconds (significand : Nat) (exponent : Int) : Binary64 :=
  let scaled := scale (significand * Nat.pow 10 9) 1 (-exponent)
  ofRatio false scaled.1 scaled.2

/-- The clock counts at most this many nanoseconds back, and one less ahead. -/
def clockLimit : Nat := Nat.pow 2 63

/-- The failure of a sleep that is too long for the clock, below zero, or no number of seconds. The clock
counts from the call on: where it counts from its own start, the time since then is taken away from the
longest sleep. -/
def sleepFailure? (duration : Binary64) : Option Failure :=
  match duration with
  | .nan => some .sleepNotNumber
  | .infinite _ => some (.sleepTooLong duration)
  | .finite negative significand exponent =>
      match (nanoseconds significand exponent).floor? with
      | none => some (.sleepTooLong duration)
      | some count =>
          if negative then
            if significand = 0 then none
            else if clockLimit < count then some (.sleepTooLong duration)
            else some (.sleepBelowZero duration)
          else if clockLimit ≤ count then some (.sleepTooLong duration)
          else none

end Binary64

namespace Program

/-- A sleep is a deed, or the clock refuses its duration. -/
def pause (duration : Binary64) : Except Failure Deed :=
  match duration.sleepFailure? with
  | none => .ok (.sleep duration)
  | some failure => .error failure

/-- Write the arguments on a line, with single spaces between them. -/
def echo : Program := fun arguments =>
  .free [.write (" ".intercalate arguments ++ "\n")] (.returned (some 0))

/-- The duration of a number of milliseconds, in seconds. -/
def milliseconds (delay : Int) : Except Failure Binary64 :=
  match Binary64.ofRatio (delay < 0) delay.natAbs 1000 with
  | .infinite _ => .error .quotientTooLarge
  | duration => .ok duration

/-- Write a word and sleep, again and again, and end the line at last. -/
def rounds (word : String) (pause : Except Failure Deed) : Nat → Course
  | 0 => .free [.write "\n"] (.returned (some 0))
  | count + 1 =>
      match pause with
      | .ok sleep => (rounds word pause count).after [.write (word ++ " "), .flush, sleep]
      | .error failure => .free [.write (word ++ " "), .flush] (.raised failure)

/-- The number of rounds of `pingPong`. -/
def roundCount : Nat := 5

/-- The milliseconds between rounds when the arguments do not say. -/
def defaultDelay : Int := 100

/-- Write a word five times with a delay after each. -/
def pingPong : Program
  | [] => .free [.write "usage: PingPong WORD [DELAY_MS]\n"] (.returned (some 2))
  | word :: arguments =>
      let delay? := match arguments with
        | [] => some defaultDelay
        | delay :: _ => Literal.integer? delay.toList
      match delay? with
      | some delay => rounds word ((milliseconds delay).bind pause) roundCount
      | none =>
          .free [.write ("PingPong: invalid delay " ++ quoted (arguments.headD "") ++ "\n")]
            (.returned (some 2))

/-- A duration below zero counts as zero. -/
def notBelowZero (duration : Binary64) : Binary64 :=
  if duration.isBelowZero then Binary64.zero false else duration

/-- Sleep for a number of seconds, or not at all without arguments. -/
def sleep : Program := fun arguments =>
  let seconds? := match arguments with
    | [] => some (Binary64.zero false)
    | seconds :: _ => Literal.double? seconds.toList
  match seconds? with
  | none =>
      .free [.write ("sleep: invalid time interval " ++ quoted (arguments.headD "") ++ "\n")]
        (.returned (some 2))
  | some seconds =>
      match pause (notBelowZero seconds) with
      | .ok deed => .free [deed] (.returned (some 0))
      | .error failure => .free [] (.raised failure)

end Program

end CommandShell
