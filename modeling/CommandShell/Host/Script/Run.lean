import CommandShell.Host.Script.Simple

/-!
Running scripts: commands of all kinds, the traps between them, and whole texts.
-/

namespace CommandShell.Host.Script

open Script.Action

/-- Run the traps of the signals that have reached the process. -/
def runTraps (engine : Engine) : Action Unit := do
  heed
  let state ← get
  let due := state.arrivalsUntil state.now
  if due.isEmpty then return ()
  set { state with
    shared := { state.shared with arrivals := state.shared.arrivals.filter (!due.contains ·) }
    interrupted? := some (state.interrupted?.getD state.status) }
  afterwards (modify fun later => { later with interrupted? := state.interrupted? }) do
    ((due.map (·.signal)).mergeSort.eraseDups).forM fun signal => do
      match (← get).traps.lookup signal with
      | none => return ()
      | some text =>
          engine.text false text
          finish (state.interrupted?.getD state.status)

/-- End the shell after a command that failed, if the script asks for that and nobody tests it. -/
def checkStatus (tested : Bool) : Action Unit := do
  if !tested && (← get).status != 0 && (← hasOption .errexit) then throw .exits

/-- What a round of a loop leads to. -/
inductive Round where
  | next
  | ends
  deriving DecidableEq, Repr

/-- Run a part of a loop. A stop that is meant for loops further out goes on to them. -/
def inLoop (action : Action Unit) : Action Round :=
  tryCatch
    (do
      action
      return .next)
    fun stop => match stop with
      | .leaves (more + 2) => throw (.leaves (more + 1))
      | .leaves _ => return .ends
      | .continues (more + 2) => throw (.continues (more + 1))
      | .continues _ => return .next
      | stop => throw stop

/-- Count a loop while it runs. -/
def countingLoop (action : Action Unit) : Action Unit := do
  let loops := (← get).loops
  modify fun state => { state with loops := loops + 1 }
  afterwards (modify fun state => { state with loops }) action

/-- A loop of more rounds than this takes as long as it can. -/
def manyRounds : Nat := Nat.pow 2 15

/-- Let time go on in a loop of many rounds: up to the next signal that reaches the process, or for ever if nobody
waits for it. -/
def goRound (round : Nat) : Action Unit := do
  if round != 0 && round % manyRounds = 0 then
    let state ← get
    match state.arrivalsUntil Instant.never with
    | arrival :: _ => modify fun state => { state with now := max state.now arrival.time }
    | [] => if state.detached then hang

/-- Run a loop with a condition; `status` is that of the last round. -/
def runLoop (engine : Engine) (tested stopsWhen : Bool) (condition body : Node) :
    Nat → Nat → Action Unit
  | 0, status => finish status
  | rounds + 1, status => do
      goRound (engine.rounds - 1 - rounds)
      let mut goesOn := false
      let round ← inLoop (engine.node .condition condition)
      goesOn := ((← get).status == 0) != stopsWhen
      if round = .ends || !goesOn then finish status
      else match ← inLoop (engine.node ⟨tested, false⟩ body) with
        | .ends => return ()
        | .next =>
            let status := (← get).status
            runLoop engine tested stopsWhen condition body rounds status

/-- Run a body for every word. -/
def runEach (engine : Engine) (tested : Bool) (name : Bytes) (body : Node) :
    List Bytes → Action Unit
  | [] => return ()
  | word :: rest => do
      assign name word
      match ← inLoop (engine.node ⟨tested, false⟩ body) with
      | .ends => return ()
      | .next => runEach engine tested name body rest

/-- Run the first branch with a pattern that a word fits. -/
def runSelect (engine : Engine) (standing : Standing) (word : Bytes) :
    List (List Word × Option Node) → Action Unit
  | [] => finish 0
  | (patterns, body) :: rest => do
      if ← patterns.anyM fun pattern => return Pattern.matchesText (← expandPattern engine pattern) word then
        match body with
        | some body => engine.node standing body
        | none => finish 0
      else runSelect engine standing word rest

/-- Look for the program of a command whose name is written plainly. -/
def findFirst : Node → Action Unit
  | .simple _ _ (word :: _) _ =>
      match plainText? word with
      | some name => do if isName name then let _ ← meaning name
      | none => return ()
  | _ => return ()

/-- A process that still writes to a stream when its last reader is gone gets a signal. If it went on as if it had
not, the run changes. A process that would write for ever ends then. -/
def breakPipe (stream : Stream) (writer : Process) (readers : List Process) : Action Process := do
  let ends := match readers with
    | reader :: _ => lastEnd [reader]
    | [] => Instant.never
  let state ← get
  let signals (chunk : Chunk) : Arrival := ⟨chunk.writer, Signal.pipe, chunk.time⟩
  let late := stream.inOrder.filter fun chunk =>
    ends < chunk.time && chunk.time < Instant.never && !state.shared.foreseen.contains (signals chunk)
  if let chunk :: _ := late then throw (.revises (signals chunk))
  if lastEnd [writer] < Instant.never || stream.chunks.isEmpty then return writer
  else return { writer with ending? := some ⟨ends, -(Signal.pipe : Int)⟩ }

/-- Run commands as children, each of which reads what the one before it writes. -/
def runPipe (engine : Engine) (tested inBackground : Bool) (input? : Option Channel) :
    List Node → Action (List Process)
  | [] => return []
  | command :: rest => do
      let stream ← newStream
      let writer ← inChild engine (inBackground || !rest.isEmpty)
        (if inBackground then Signal.fromTerminal else []) do
        if let some input := input? then connect 0 (some input)
        if !rest.isEmpty then connect 1 (some (.stream stream))
        engine.node ⟨tested, true⟩ command
      let written ← takeStream stream
      if rest.isEmpty then return [writer]
      let source ← sourceOf (.ofStream written)
      let readers ← runPipe engine tested inBackground (some source) rest
      return (← breakPipe written writer readers) :: readers

/-- Run a command in the background. The processes of one that others read from are children of the shell
itself. -/
def runBackground (engine : Engine) (command : Node) : Action Unit := do
  let place ← makeRoom
  let members ← match command with
    | .pipe commands =>
        commands.forM findFirst
        runPipe engine false true (some .nowhere) commands
    | command => runPipe engine false true (some .nowhere) [command]
  modify fun state => { state with
    now := state.now + Instant.fork
    jobs := ⟨place, members.map (·.number), false⟩ :: state.jobs
    background? := (members.getLast?).map (·.number)
    status := 0 }

/-- Run a command. -/
def runNode (engine : Engine) (standing : Standing) (command : Node) : Action Unit := do
  if ← hasOption .noexec then return ()
  runTraps engine
  let tested := standing.tested
  match command with
  | .simple line assignments words redirects =>
      runSimple engine standing line assignments words redirects
      checkStatus tested
  | .pipe commands =>
      commands.forM findFirst
      let _ ← makeRoom
      finish (← await (← runPipe engine tested false none commands))
      checkStatus tested
  | .both first second =>
      engine.node .condition first
      if (← get).status = 0 then engine.node standing second
  | .either first second =>
      engine.node .condition first
      if (← get).status != 0 then engine.node standing second
  | .sequence first second =>
      engine.node standing.followed first
      engine.node standing second
  | .negation command =>
      engine.node .condition command
      finish (if (← get).status = 0 then 1 else 0)
  | .background command => runBackground engine command
  | .redirected line command redirects =>
      modify fun state => { state with line }
      let openings ← redirects.mapM (prepare engine)
      keepingChannels do
        if ← makeAll engine programNames openings then engine.node standing.followed command
        else finish 2
      checkStatus tested
  | .subshell line command redirects =>
      modify fun state => { state with line }
      let openings ← redirects.mapM (prepare engine)
      let body : Action Unit := do
        if ← makeAll engine programNames openings then engine.node standing.last command
        else finish 2
      if ← takesPlace standing then
        body
        throw .exits
      finish (← subshell engine body)
      checkStatus tested
  | .choice condition first second? =>
      engine.node .condition condition
      if (← get).status = 0 then engine.node standing first
      else match second? with
        | some second => engine.node standing second
        | none => finish 0
  | .loop stopsWhen condition body =>
      countingLoop (runLoop engine tested stopsWhen condition body engine.rounds 0)
  | .each line name words? body =>
      modify fun state => { state with line }
      let words ← match words? with
        | some words => List.flatten <$> words.mapM (expandFields programNames engine)
        | none => State.parameters <$> get
      if words.isEmpty then finish 0
      countingLoop (runEach engine tested name body words)
  | .select line word branches =>
      modify fun state => { state with line }
      let text ← expandText engine word
      runSelect engine standing text branches
  | .define _ name body =>
      modify fun state => { state with
        functions := (name, body) :: state.functions.filter (·.1 != name)
        found := state.found.filter (·.name != name) }
      finish 0
  runTraps engine

/-- The first lines of a text. -/
def firstLines : Nat → Bytes → Bytes
  | 0, _ => []
  | _, [] => []
  | count + 1, char :: rest => char :: firstLines (if char = '\n' then count else count + 1) rest

/-- Run the lines of a script that are left, one after the other. Those of a document are shown when the
script asks for that. -/
def runLines (engine : Engine) (tested isDocument : Bool) : Nat → Bool → Source → Action Unit
  | 0, _, _ => return ()
  | steps + 1, ran, source => do
      let read := source.next (← get).aliases
      if isDocument && (← hasOption .verbose) then
        let _ ← write 2 <| match read with
          | .error misspelling => firstLines (misspelling.line + 1 - source.line) source.rest
          | .ok (_, next) => source.rest.take (source.rest.length - next.rest.length)
      match read with
      | .error misspelling =>
          modify fun state => { state with line := misspelling.line }
          fail (Bytes.ofString misspelling.message)
      | .ok ((node?, more), next) =>
          modify fun state => { state with
            documents := next.documents ++ state.documents
            nextDocument := next.nextDocument
            line := source.line
            lineRead := next.line }
          if let some node := node? then engine.node ⟨tested, false⟩ node
          let ran := ran || node?.isSome
          if more then runLines engine tested isDocument steps ran { next with documents := [] }
          else if !ran then finish 0

/-- Run a text as a script. -/
def runText (engine : Engine) (tested isDocument : Bool) (text : Bytes) : Action Unit := do
  let lineRead := (← get).lineRead
  afterwards (modify fun state => { state with lineRead }) do
    runLines engine tested isDocument (text.length + 2) false (Source.ofText (← get).nextDocument text)

/-- The runners of scripts, at most `depth` calls inside each other. -/
def Engine.ofDepth (rounds : Nat) : Nat → Engine
  | 0 => ⟨rounds, fun _ _ => throw .fault, fun _ _ => throw .fault, fun _ => throw .fault⟩
  | depth + 1 => {
      rounds
      node := fun standing command => runNode (Engine.ofDepth rounds depth) standing command
      text := fun tested text => runText (Engine.ofDepth rounds depth) tested false text
      document := fun text => runText (Engine.ofDepth rounds depth) false true text }

/-- The runners of all scripts. Deeper and longer scripts than these bounds allow do not end on any
host. -/
def Engine.all : Engine := Engine.ofDepth (Nat.pow 2 32) (Nat.pow 2 20)

/-- The variables that programs of the host start with. -/
def hostVariables : List (Bytes × Variable) :=
  let given (name : String) (value : Bytes) : Bytes × Variable := (name.toList, ⟨some value, true, false⟩)
  [given "LANG" (Bytes.ofString "C.UTF-8"), given "PATH" (Bytes.join [':'] (searchPath.map Bytes.ofString))]

/-- The processes that are there before a program of the host starts: the first one of the host, and the one
that starts the program. -/
def hostProcesses : List Process := [⟨1, [], none, false⟩, ⟨1000, [], none, false⟩]

/-- The state of a process that a program of the host starts in. Its input is empty, and signals are on their
way. -/
def hostState (arrivals : List Arrival) : State where
  shared := {
    streams := [(1, .empty)]
    supplies := [(0, .ofBytes [])]
    written := []
    places := []
    nextChannel := 2
    nextProcess := 1002
    processes := ⟨1001, [0], none, false⟩ :: hostProcesses
    arrivals
    foreseen := arrivals }
  name := []
  parameters := []
  bindings := hostVariables
  functions := []
  documents := []
  nextDocument := 0
  switches := []
  status := 0
  substituted? := none
  interrupted? := none
  traps := []
  unheeded := []
  channels := [(0, .source 0), (1, .stream 1), (2, .complaints)]
  process := 1001
  parent := 1000
  shell := 1001
  lineage := [0]
  children := 0
  now := 0
  detached := false
  loops := 0
  calls := 0
  hidden := []
  place := startPlace
  here := []
  line := 0
  lineRead := 0
  command? := none
  aliases := []
  found := []
  jobs := []
  background? := none
  optionPlace := .start
  mask := 0o22
  limits :=
    let none := Builtin.unlimited
    [('s', ⟨8192 * 1024, none⟩), ('c', ⟨0, none⟩), ('l', ⟨8192 * 1024, 8192 * 1024⟩), ('p', ⟨128604, 128604⟩),
      ('n', ⟨20000, 20000⟩), ('r', ⟨0, 0⟩)]

/-- Run a program of the host under the name it was called by. Whenever a signal reaches a process that has run
beyond that time, all is run again with that signal on its way, at most `runs` times. -/
def runProgram (title : Bytes) (name : String) (arguments : List Bytes) (arrivals : List Arrival) :
    Nat → Host.Run
  | 0 => .silent 0
  | runs + 1 =>
      let run := (toEnd Engine.all (becomeProgram Engine.all title name arguments)).run.run (hostState arrivals)
      let ended (final : State) (status : Int) : Host.Run :=
        ⟨[.output (((final.shared.streams.lookup 1).getD .empty).text)], status⟩
      match run with
      | (.error (.revises arrival), _) => runProgram title name arguments (arrivals ++ [arrival]) runs
      | (.error (.dies signal), final) => ended final (-(signal : Int))
      | (_, final) => ended final (final.status % 256 : Nat)

end CommandShell.Host.Script
