import CommandShell.Host.Signal

/-!
Processes in time. Children run one after the other here, each with a clock of its own, so what they write
and the signals they send carry the time at which that happens.
-/

namespace CommandShell.Host.Script

/-- A point in time, in nanoseconds from the start of a run. -/
abbrev Instant := Nat

namespace Instant

/-- A time that never comes. -/
def never : Instant := Nat.pow 10 30

/-- The time it takes to start a child. -/
def fork : Nat := 600

/-- The time it takes until a child runs, or until a signal ends a process. -/
def start : Nat := 2000

/-- The time it takes until a shell that waits for a child goes on after its end. -/
def notice : Nat := 5000

/-- The time it takes until a process has become another program. -/
def load : Nat := 20000

end Instant

/-- The descent of a process, itself first: each is the child with that number of the one after it. -/
abbrev Lineage := List Nat

/-- A signal that reaches a process. -/
structure Arrival where
  target : Lineage
  signal : Nat
  time : Instant
  deriving DecidableEq, Repr

/-- A text that a process wrote. -/
structure Chunk where
  time : Instant
  writer : Lineage
  text : Bytes
  deriving DecidableEq, Repr

/-- What was written to a stream, the last chunk first, and the time from which on nobody can write to it. -/
structure Stream where
  chunks : List Chunk
  closes : Instant
  deriving DecidableEq, Repr

namespace Stream

/-- A stream that nobody has written to. -/
def empty : Stream := ⟨[], 0⟩

/-- The chunks in the order in which they were written. -/
def inOrder (stream : Stream) : List Chunk :=
  stream.chunks.reverse.mergeSort fun first second => decide (first.time ≤ second.time)

/-- The whole text. -/
def text (stream : Stream) : Bytes := stream.inOrder.flatMap (·.text)

end Stream

/-- What can be read from a channel: texts with the times at which they come, and the time of their end. -/
structure Supply where
  texts : List (Instant × Bytes)
  closes : Instant
  deriving DecidableEq, Repr

namespace Supply

/-- A text that is there from the start. -/
def ofBytes (text : Bytes) : Supply := ⟨[(0, text)], 0⟩

/-- What is read from a stream. -/
def ofStream (stream : Stream) : Supply :=
  ⟨stream.inOrder.map fun chunk => (chunk.time, chunk.text), stream.closes⟩

/-- The whole text. -/
def text (supply : Supply) : Bytes := supply.texts.flatMap (·.2)

/-- Leave out the first bytes of texts, and tell when the last of them came. -/
def skip (time : Instant) : Nat → List (Instant × Bytes) → Instant × List (Instant × Bytes)
  | 0, texts => (time, texts)
  | _, [] => (time, [])
  | count, (comes, text) :: rest =>
      let time := max time comes
      if count < text.length then (time, (comes, text.drop count) :: rest)
      else skip time (count - text.length) rest

end Supply

/-- How a process ends: when, and with which status. That of one that a signal ends is the number of the
signal below zero. -/
structure Ending where
  time : Instant
  status : Int
  deriving DecidableEq, Repr

/-- A process by its number. One that has ended is there until its parent knows of that. -/
structure Process where
  number : Nat
  lineage : Lineage
  ending? : Option Ending
  known : Bool
  deriving DecidableEq, Repr

/-- A command in the background: the number it is listed under, its processes in order, and whether the script
has waited for it. -/
structure Job where
  place : Nat
  members : List Nat
  awaited : Bool
  deriving DecidableEq, Repr

/-- What a process does at a signal. -/
inductive Reaction where
  | nothing
  | runs (text : Bytes)
  | dies
  deriving DecidableEq, Repr

end CommandShell.Host.Script
