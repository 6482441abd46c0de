import CommandShell.Host.Script.State

/-!
The children of a process: how they start and end, what a shell knows of them, and the signals that reach a
process. A child runs as soon as it is started, up to its end, on a clock of its own.
-/

namespace CommandShell.Host.Script

namespace State

/-- The signals that reach the process up to a time and that it reacts to, the first one first. -/
def arrivalsUntil (state : State) (time : Instant) : List Arrival :=
  (state.shared.arrivals.filter fun arrival =>
      arrival.target == state.lineage && decide (arrival.time ≤ time) &&
        state.reaction arrival.signal != .nothing).mergeSort
    fun first second => decide (first.time ≤ second.time)

/-- The process with a number. -/
def processAt? (state : State) (number : Nat) : Option Process :=
  state.shared.processes.find? (·.number == number)

/-- The processes of a command in the background. -/
def members (state : State) (job : Job) : List Process := job.members.filterMap state.processAt?

/-- Whether the shell knows that a command in the background has ended. -/
def isDone (state : State) (job : Job) : Bool := (state.members job).all (·.known)

/-- The signals that programs take no notice of when the script starts them. -/
def unheededAfter (state : State) : List Nat :=
  state.unheeded ++
    ((state.traps.filter (·.2.isEmpty)).map (·.1)).filter (· != Signal.exit)

end State

/-- The status that a signal gives to a process. -/
def signalStatus (signal : Nat) : Nat := 128 + signal

/-- The status of a process as a script sees it, which tells the signal of one that a signal ended. -/
def statusOf (status : Int) : Nat :=
  if 0 ≤ status then status.toNat else signalStatus status.natAbs

namespace Action

/-- End the process if a signal has reached it that does that, right after the time of the signal. Signals that it
takes no notice of are gone. -/
def heed : Action Unit := do
  let state ← get
  let fatal := (state.arrivalsUntil state.now).filter fun arrival => state.reaction arrival.signal == .dies
  if let arrival :: _ := fatal then
    set { state with now := arrival.time + Instant.start }
    throw (.dies arrival.signal)
  let stays (arrival : Arrival) : Bool :=
    arrival.target != state.lineage || state.now < arrival.time || state.reaction arrival.signal != .nothing
  if state.shared.arrivals.any (!stays ·) then
    set { state with shared := { state.shared with arrivals := state.shared.arrivals.filter stays } }

/-- Know of the commands in the background that have ended by now. -/
def learn : Action Unit := do
  let state ← get
  let members := state.jobs.flatMap (·.members)
  let ended (process : Process) : Bool :=
    process.ending?.any fun ending => decide (ending.time ≤ state.now)
  if !members.isEmpty then
    set { state with shared := { state.shared with
      processes := state.shared.processes.map fun (process : Process) =>
        if members.contains process.number && ended process then { process with known := true }
        else process } }

/-- Tell of a process that a signal ended. -/
def tellSignal (signal : Nat) : Action Unit := do
  if !Signal.isQuiet signal then
    let _ ← write 2 (Bytes.ofString (Signal.endText signal) ++ ['\n'])

/-- Tell of processes that signals ended, in the order of their ends. -/
def tellSignals (processes : List Process) : Action Unit := do
  let endings := (processes.filterMap (·.ending?)).mergeSort fun first second =>
    decide (first.time ≤ second.time)
  endings.forM fun ending => do
    if ending.status < 0 then tellSignal ending.status.natAbs

/-- The process never ends, unless a signal reaches it at some time. -/
def hang {Value : Type} : Action Value := do
  modify fun state => { state with now := Instant.never }
  heed
  throw .hangs

/-- Run the trap for the end of a shell, and keep the status unless the trap exits itself. -/
def atExit (engine : Engine) : Action Unit := do
  let state ← get
  match state.traps.lookup Signal.exit with
  | none => return ()
  | some text =>
      set { state with
        traps := state.traps.filter (·.1 != Signal.exit)
        interrupted? := some state.status }
      tryCatch
        (do
          engine.text false text
          finish state.status)
        fun stop => match stop with
          | .dies _ => throw stop
          | .hangs => throw stop
          | .revises _ => throw stop
          | .exits => return ()
          | .fault => return ()
          | _ => finish state.status

/-- Run a shell to its end. Only the end of its process goes further. -/
def toEnd (engine : Engine) (action : Action Unit) : Action Unit := do
  tryCatch action fun stop => match stop with
    | .dies _ => throw stop
    | .hangs => throw stop
    | .revises _ => throw stop
    | _ => return ()
  atExit engine

/-- The number under which the next command in the background is listed. One whose end the script has waited for
makes room. -/
def makeRoom : Action Nat := do
  let state ← get
  let isFree (place : Nat) : Bool := match state.jobs.find? (·.place == place) with
    | some job => job.awaited && state.isDone job
    | none => true
  let place := (((List.range (state.jobs.length + 1)).map (· + 1)).find? isFree).getD 1
  set { state with jobs := state.jobs.filter (·.place != place) }
  return place

/-- Begin to run as a child: only traps that ignore signals stay, and there are more signals that are not heeded. A
signal that came before this goes where it would have gone in the parent, but its trap does not run. -/
def becomeChild (unheeded : List Nat) : Action Unit := do
  heed
  modify fun state => { state with
    traps := state.traps.filter (·.2.isEmpty)
    unheeded := state.unheeded ++ unheeded
    shared := { state.shared with
      arrivals := state.shared.arrivals.filter fun arrival =>
        arrival.target != state.lineage || state.now < arrival.time } }

/-- Run something in a child, and give back the child, which has ended. It gets a copy of the state without the
commands in the background, and what it keeps open stays open until its end. -/
def inChild (engine : Engine) (detached : Bool) (unheeded : List Nat) (action : Action Unit) :
    Action Process := do
  let before ← get
  let number := before.shared.nextProcess
  let lineage := before.children :: before.lineage
  set { before with
    shared := { before.shared with
      nextProcess := number + 1
      processes := ⟨number, lineage, none, false⟩ :: before.shared.processes }
    interrupted? := none
    process := number
    parent := before.process
    lineage
    children := 0
    now := before.now + Instant.start
    detached := before.detached || detached
    jobs := [] }
  let status : Int ← tryCatch
    (do
      becomeChild unheeded
      toEnd engine action
      return ((← get).status % 256 : Nat))
    fun stop => match stop with
      | .dies signal => return -(signal : Int)
      | .hangs => return 0
      | stop => throw stop
  let after ← get
  let process : Process := ⟨number, lineage, some ⟨after.now, status⟩, false⟩
  let isOpen (stream : Nat) : Bool := after.channels.any (·.2 == .stream stream)
  set { before with
    children := before.children + 1
    shared := { after.shared with
      processes := process :: after.shared.processes.filter (·.number != number)
      streams := after.shared.streams.map fun (named : Nat × Stream) =>
        if isOpen named.1 then (named.1, { named.2 with closes := max named.2.closes after.now })
        else named } }
  return process

/-- The time at which the last of some processes has ended. -/
def lastEnd (processes : List Process) : Instant :=
  (processes.filterMap (·.ending?)).foldl (fun time ending => max time ending.time) 0

/-- The status of a process that has ended. -/
def endStatus (process : Process) : Nat := statusOf ((process.ending?.map (·.status)).getD 0)

/-- Wait for processes in the foreground, and give back the status of the last one. -/
def await (processes : List Process) : Action Nat := do
  let ends := lastEnd processes
  if Instant.never ≤ ends then hang
  let numbers := processes.map (·.number)
  modify fun state => { state with
    now := max state.now (ends + Instant.notice)
    shared := { state.shared with
      processes := state.shared.processes.filter fun process => !numbers.contains process.number } }
  heed
  learn
  tellSignals processes
  return (processes.getLast?.map endStatus).getD 0

/-- Run something in a subshell, and give its status back. -/
def subshell (engine : Engine) (action : Action Unit) : Action Nat := do
  let _ ← makeRoom
  await [← inChild engine false [] action]

/-- A new stream. -/
def newStream : Action Nat := do
  let number ← newChannel
  modify fun state => { state with shared := { state.shared with
    streams := (number, .empty) :: state.shared.streams } }
  return number

/-- What was written to a stream, which is not used any more. -/
def takeStream (number : Nat) : Action Stream := do
  let state ← get
  set { state with shared := { state.shared with
    streams := state.shared.streams.filter (·.1 != number) } }
  return (state.shared.streams.lookup number).getD .empty

/-- Run something in a subshell, and give back what is written until nobody can write any more, and the
status. -/
def capture (engine : Engine) (action : Action Unit) : Action (Bytes × Nat) := do
  let _ ← makeRoom
  let number ← newStream
  let child ← inChild engine false [] do
    connect 1 (some (.stream number))
    action
  let stream ← takeStream number
  if Instant.never ≤ stream.closes then hang
  modify fun state => { state with now := max state.now stream.closes }
  return (stream.text, ← await [child])

/-- Let time go on until processes have ended, or until a signal reaches this one before that, which is given
back. Of a signal that comes with the end only a process that has just begun to wait takes notice. -/
def passUntil (processes : List Process) : Action (Option Nat) := do
  let state ← get
  let ends := lastEnd processes
  let isFirst (arrival : Arrival) : Bool :=
    decide (arrival.time < ends) || decide (ends ≤ state.now + Instant.start)
  match (state.arrivalsUntil ends).filter isFirst with
  | arrival :: _ =>
      set { state with now := max state.now arrival.time }
      heed
      learn
      return some arrival.signal
  | [] =>
      if Instant.never ≤ ends then hang
      if state.now < ends then set { state with now := ends + Instant.notice }
      heed
      learn
      return none

end Action

end CommandShell.Host.Script
