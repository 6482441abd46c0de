import CommandShell.Host.Script.Builtin

/-!
The commands of the language that deal with signals and processes.
-/

namespace CommandShell.Host.Script.Builtin

open Script.Action

/-- Set what a script does at a signal, or list that. -/
def trap : Builtin := fun _ arguments => do
  let (_, arguments) ← options [] [] arguments
  match arguments with
  | [] =>
      let traps := (← get).traps.mergeSort fun first second => decide (first.1 ≤ second.1)
      put <| traps.flatMap fun (signal, text) =>
        bytes "trap -- " ++ quotedText text ++ ' ' :: (Signal.names[signal]?).getD [] ++ ['\n']
  | first :: rest =>
      if rest.isEmpty || (Signal.ofText? 0 first).isSome && first.all Char.isDigit then
        place none arguments
      else place (if first = ['-'] then none else some first) rest
where
  /-- Set the trap of signals, one after the other. -/
  place (text? : Option Bytes) : List Bytes → Action Nat
    | [] => return 0
    | name :: rest =>
        match Signal.ofText? 0 name with
        | none => do
            let _ ← write 2 (bytes "trap: " ++ name ++ bytes ": bad trap\n")
            return 1
        | some signal => do
            modify fun state => { state with
              traps := (text?.map (signal, ·)).toList ++ state.traps.filter (·.1 != signal) }
            place text? rest

/-- Send a signal to another process, and tell whether it is there. One that has not ended yet by now may have run
beyond now already. -/
def sendOther (signal number : Nat) : Action Bool := do
  let state ← get
  match state.processAt? number with
  | none => return false
  | some process =>
      let arrival : Arrival := ⟨process.lineage, signal, state.now⟩
      match process.ending? with
      | none =>
          if signal != 0 then
            set { state with shared := { state.shared with
              arrivals := state.shared.arrivals ++ [arrival] } }
          return true
      | some ending =>
          let isForeseen := state.shared.foreseen.contains arrival
          if signal != 0 && !isForeseen && state.now < ending.time then throw (.revises arrival)
          return !process.known || isForeseen

/-- The command in the background that a text names. -/
def job (name : Bytes) : Action Job := do
  let jobs := (← get).jobs
  let rest := name.drop 1
  if rest.isEmpty || rest = ['+'] || rest = ['%'] then
    match jobs with
    | job :: _ => return job
    | [] => fail (bytes "No current job")
  else if rest = ['-'] then
    match jobs with
    | _ :: job :: _ => return job
    | _ => fail (bytes "No previous job")
  else
    let place? := if rest.all Char.isDigit then (String.ofList rest).toNat? else none
    match jobs.find? fun job => some job.place == place?, jobs with
    | some job, _ => return job
    | none, [job] => if rest = ['?'] then return job else refuse "No such job: " name
    | none, _ :: _ :: _ =>
        if rest = ['?'] then fail (name ++ bytes ": ambiguous") else refuse "No such job: " name
    | none, [] => refuse "No such job: " name

/-- Refuse to control commands in the background, which only a terminal can do. -/
def control : Builtin := fun _ arguments => do
  let (_, arguments) ← options [] [] arguments
  match arguments with
  | [] =>
      let _ ← job ['%']
      refuse "job (null) not created under job control" []
  | name :: _ =>
      if name.head? != some '%' then refuse "No such job: " name
      let _ ← job name
      fail (bytes "job " ++ name ++ bytes " not created under job control")

/-- How the state of a command in the background is told. -/
def stateText (state : State) (job : Job) : Bytes :=
  if !state.isDone job then bytes "Running"
  else
    let status : Int := (((state.members job).getLast?.bind Process.ending?).map Ending.status).getD 0
    if status < 0 then bytes (Signal.endText status.natAbs)
    else if status = 0 then bytes "Done"
    else bytes ("Done(" ++ toString status ++ ")")

/-- The lines that tell of a command in the background, with or without the numbers of its processes. -/
def jobLines (state : State) (numbered : Bool) (job : Job) : Bytes :=
  let mark := if state.jobs.head? = some job then '+' else if state.jobs[1]? = some job then '-' else ' '
  let start := bytes ("[" ++ toString job.place ++ "] ") ++ [mark, ' ']
  let number (number : Nat) : Bytes := if numbered then Bytes.ofNat number ++ [' '] else []
  let first := start ++ number (job.members.headD 0) ++ stateText state job
  let fill (line : Bytes) (width : Nat) : Bytes := line ++ List.replicate (max 1 (width - line.length)) ' '
  let rest := job.members.tail.map fun process =>
    if numbered then fill (bytes " |\n" ++ List.replicate start.length ' ' ++ number process) 36
    else bytes " | "
  fill first 33 ++ rest.flatten ++ ['\n']

/-- Tell of commands in the background. Of those that have ended it is told once. -/
def jobs : Builtin := fun _ arguments => do
  let (asked, arguments) ← options ['l', 'p'] [] arguments
  let tell (job : Job) : Action Nat := do
    let state ← get
    match asked.getLast? with
    | some ('p', _) => put (Bytes.ofNat (job.members.headD 0) ++ ['\n'])
    | letter? =>
        let told ← put (jobLines state letter?.isSome job)
        if state.isDone job then
          modify fun state => { state with jobs := state.jobs.filter (·.place != job.place) }
        return told
  if arguments.isEmpty then
    learn
    (← get).jobs.forM fun job => do let _ ← tell job
  else
    arguments.forM fun name => do
      if name.head? != some '%' then refuse "No such job: " name
      let _ ← tell (← job name)
  return 0

/-- Send a signal to processes, or list the signals. -/
def kill : Builtin := fun _ arguments => do
  match arguments with
  | [] => usage
  | ('-' :: name) :: rest =>
      match Signal.ofText? 1 name with
      | some signal => toAll signal rest
      | none =>
          let (asked, operands) ← options ['l'] ['s'] arguments
          let named ← asked.filterMapM fun (letter, name) => do
            if letter != 's' then return none
            match Signal.ofText? 1 name with
            | some signal => return some signal
            | none => refuse "invalid signal number or name: " name
          if asked.any (·.1 == 'l') then
            if named.isEmpty then list operands else usage
          else toAll (named.getLast?.getD Signal.term) operands
  | arguments => toAll Signal.term arguments
where
  /-- Refuse arguments that are no command. -/
  usage : Action Nat :=
    fail (bytes ("Usage: kill [-s sigspec | -signum | -sigspec] [pid | job]... or\n" ++
      "kill -l [exitstatus]"))
  /-- The names of the signals, or that of one status. -/
  list (arguments : List Bytes) : Action Nat := do
    match arguments with
    | [] => put ((['0'] :: Signal.names.drop 1).flatMap (· ++ ['\n']))
    | text :: _ =>
        let status ← number text
        let signal := if 128 < status then status - 128 else status
        if 0 < signal ∧ signal < Signal.names.length then put ((Signal.names[signal]?).getD [] ++ ['\n'])
        else refuse "invalid signal number or exit status: " text
  /-- Each process gets the signal. -/
  toAll (signal : Nat) (processes : List Bytes) : Action Nat := do
    if processes.isEmpty then usage
    else
      let missed ← processes.filterM fun process => do
        let isThere ← match process with
          | '%' :: _ => do
              let _ ← job process
              pure false
          | '-' :: group => do
              let _ ← number group
              pure false
          | process => reach signal (← number process)
        if !isThere then complain (bytes "No such process\n")
        return !isThere
      return if missed.isEmpty then 0 else 1
  /-- Send a signal to a process if it can be reached, and tell whether it can. -/
  reach (signal target : Nat) : Action Bool := do
    if target = (← get).process ∨ target = 0 then
      send signal
      return true
    else sendOther signal target

/-- Wait for commands in the background. The status is that of the last one, or tells of a signal that came before
its end. -/
def wait : Builtin := fun _ arguments => do
  let (_, arguments) ← options [] [] arguments
  if arguments.isEmpty then
    let state ← get
    let signal? ← passUntil (state.jobs.flatMap state.members)
    modify fun state => { state with
      jobs := state.jobs.map fun job => { job with awaited := job.awaited || state.isDone job } }
    return (signal?.map signalStatus).getD 0
  else each 127 arguments
where
  /-- Wait for one after the other, given the status of the one before. -/
  each (status : Nat) : List Bytes → Action Nat
    | [] => return status
    | name :: rest => do
        let job? ← match name with
          | '%' :: _ => some <$> job name
          | name => do
              let target ← number name
              pure ((← get).jobs.find? (·.members.getLast? == some target))
        match job? with
        | none => each status rest
        | some job =>
            let news := ((← get).members job).filter (!·.known)
            match ← passUntil news with
            | some signal => return signalStatus signal
            | none =>
                tellSignals news
                modify fun state => { state with jobs := state.jobs.map fun other =>
                  if other.place = job.place then { other with awaited := true } else other }
                each (((← get).members job).getLast?.map endStatus |>.getD 0) rest

/-- Tell the time that was used. Time is not part of a run. -/
def times : Builtin := fun _ _ =>
  let none := "0m0.000000s 0m0.000000s\n"
  put (bytes (none ++ none))

end CommandShell.Host.Script.Builtin
