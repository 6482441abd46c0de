import CommandShell.Host.Script.Start

/-!
Running simple commands: their words, assignments and redirections, and what they start.
-/

namespace CommandShell.Host.Script

open Script.Action

/-- Write the parts of a run but for the start of its output, which was written before. -/
def writeParts (begun : Nat) : List Host.Part → Action Unit
  | [] => return ()
  | .output text :: rest => do
      let _ ← write 1 (text.drop begun)
      writeParts (begun - text.length) rest
  | .complaint text :: rest => do
      let _ ← write 2 text
      writeParts begun rest

/-- Run a program on the input that has come, whenever some comes, and write what this adds to the output. The
length of the output so far is given back. -/
def runEarly (run : Option Bytes → Host.Run) : Action Nat := do
  let state ← get
  match state.channels.lookup 0 with
  | some (.source number) =>
      let supply := (state.shared.supplies.lookup number).getD (.ofBytes [])
      let times := (supply.texts.map (·.1)).eraseDups.filter (· < supply.closes)
      times.foldlM (fun begun time => do
        let came := (supply.texts.filter (·.1 ≤ time)).flatMap (·.2)
        let output := (run (some came)).output
        modify fun state => { state with now := max state.now time }
        let _ ← write 1 (output.drop begun)
        heed
        return output.length) 0
  | _ => return 0

/-- Let the process become one of the common programs, up to its end. -/
def becomeTool (tool : Tool) (title : Bytes) (name : String) (arguments : List Bytes) : Action Unit := do
  modify fun state => { state with traps := [], unheeded := state.unheededAfter }
  let reads := Programs.readsInput name arguments
  let state ← get
  let outlet := match state.channels.lookup 1 with
    | some (.source _) => Outlet.closed
    | some (.document _ _ .reads) => .closed
    | some .full => .full
    | some _ => .taken
    | none => .closed
  let run (input? : Option Bytes) : Host.Run := tool arguments
    ⟨title, input?, outlet, readDocument programNames state, view programNames state⟩
  let begun ← if reads then runEarly run else pure 0
  let input? ← match (← get).channels.lookup 0 with
    | none => pure none
    | some _ => if reads then some <$> remaining 0 else pure (some [])
  if reads then leave 0 [] true
  if Instant.never ≤ (← get).now then hang
  let run := run input?
  writeParts begun run.parts
  match Programs.duration? name arguments with
  | some duration => modify fun state => { state with now := state.now + duration }
  | none => hang
  heed
  finish run.status.toNat

/-- Let the process become a program under the name it was called by, up to the end of the program. -/
def becomeProgram (engine : Engine) (title : Bytes) (name : String) (arguments : List Bytes) :
    Action Unit := do
  modify fun state => { state with now := state.now + Instant.load }
  match Programs.table.lookup name with
  | some tool => becomeTool tool title name arguments
  | none => becomeShell engine title arguments

/-- Whether a command can take the place of the shell: nothing follows it, and no trap is left to run. -/
def takesPlace (standing : Standing) : Action Bool := do
  return standing.final && (← get).traps.all (·.2.isEmpty)

/-- The status of a command that cannot be started. -/
def Obstacle.status : Obstacle → Nat
  | .missing => 127
  | .notDirectory => 127
  | .nameTooLong => 127
  | _ => 126

/-- Complain about a command that cannot be started. -/
def complainUnstarted (name : Bytes) (obstacle : Obstacle) (status : Nat) : Action Unit := do
  complain (name ++ Bytes.ofString (": " ++ obstacleText "not found" obstacle))
  finish status

/-- Run the program at a path. -/
def startProgram (engine : Engine) (standing : Standing) (path : Bytes) (fields : List Bytes) :
    Action Unit := do
  let name := fields.headD []
  match programAt programNames (← get).place (Bytes.toText path) with
  | .ok program =>
      let become := becomeProgram engine name program fields.tail
      if ← takesPlace standing then
        become
        throw .exits
      finish (← subshell engine become)
  | .error obstacle => complainUnstarted name obstacle (Obstacle.status obstacle)

/-- Give variables their values, one after the other, and mark them for programs if asked. A variable that is
hidden gets its value back later. -/
def assignAll (engine : Engine) (hides exports : Bool) (assignments : List (Bytes × Word)) :
    Action (List (Bytes × Bytes)) :=
  assignments.mapM fun (name, word) => do
    let value ← expandValue engine word
    if hides then hide name
    assign name value
    if exports then
      if let some content ← variableOf? name then putVariable name { content with exported := true }
    return (name, value)

/-- Functions can be at most this many calls deep. -/
def callLimit : Nat := 1000

/-- Call a function. -/
def callFunction (engine : Engine) (tested : Bool) (body : Node) (arguments : List Bytes) :
    Action Unit := do
  let before ← get
  if callLimit ≤ before.calls then
    fail (Bytes.ofString
      ("Maximum function recursion depth (" ++ toString callLimit ++ ") reached"))
  set { before with
    parameters := arguments
    calls := before.calls + 1
    loops := 0
    optionPlace := .start }
  let leaveFunction : Action Unit := modify fun state => { state with
    parameters := before.parameters
    calls := before.calls
    loops := before.loops
    optionPlace := before.optionPlace }
  afterwards leaveFunction <|
    tryCatch (engine.node ⟨tested, false⟩ body) fun stop => match stop with
      | .returns => return ()
      | stop => throw stop

/-- Replace the shell by a program; without one nothing happens. -/
def replaceShell (engine : Engine) (arguments : List Bytes) : Action Unit := do
  match arguments with
  | [] => finish 0
  | name :: rest =>
      let state ← get
      let paths := if name.contains '/' then [name] else searchPaths state name
      let found := do
        let path ← firstProgramAt state.place .missing paths
        programAt programNames state.place (Bytes.toText path)
      match found with
      | .ok program => becomeProgram engine name program rest
      | .error obstacle => complainUnstarted name obstacle (Obstacle.status obstacle)
      throw .exits

/-- Run a command of the language. -/
def runBuiltin (engine : Engine) (tested : Bool) (name : Bytes) (arguments : List Bytes) :
    Action Unit := do
  let before := (← get).command?
  modify fun state => { state with command? := some name }
  let inner := { engine with text := fun within => engine.text (within || tested) }
  afterwards (modify fun state => { state with command? := before }) <|
    match String.ofList name with
    | "exec" => replaceShell engine arguments
    | "hash" => do finish (← hashed arguments)
    | "command" => do finish (← commandWord arguments)
    | "type" => do finish (← describeAll arguments)
    | text => match (Builtin.table programNames).lookup text with
      | some builtin => do finish (← builtin inner arguments)
      | none => finish 127

/-- Expand words until they decide what is run, and give back the words that are left. -/
def chosenFields (engine : Engine) (given : List Bytes) : List Word → Action (Chosen × List Word)
  | [] => do
      let functions := (← get).functions
      let plain : Chosen := ⟨false, false, given, given⟩
      return ((Chosen.ofFields? functions given.length plain).getD plain, [])
  | word :: rest => do
      let given := given ++ (← expandFields programNames engine word)
      match Chosen.ofFields? (← get).functions (given.length + 1) ⟨false, false, given, given⟩ with
      | some chosen => return (chosen, rest)
      | none => chosenFields engine given rest

/-- The commands of the language that take assignments. -/
def takesAssignments : List String := ["alias", "export", "local", "readonly"]

/-- The command that words choose. Words that assign are not split after a command that takes them. -/
def chosenCommand (engine : Engine) (words : List Word) : Action Chosen := do
  let (chosen, rest) ← chosenFields engine [] words
  let name := chosen.fields.headD []
  let isFunction := !chosen.skipsFunctions && ((← get).functions.lookup name).isSome
  let assigns := !isFunction && takesAssignments.contains (String.ofList name)
  let others ← rest.mapM fun word => do
    match if assigns then assignment? word else none with
    | some (name, value) => return [name ++ '=' :: (← expandValue engine value)]
    | none => expandFields programNames engine word
  return { chosen with
    fields := chosen.fields ++ others.flatten
    whole := chosen.whole ++ others.flatten }

/-- The text in front of commands that are traced. One that cannot be read stands for itself. -/
def traceStart (engine : Engine) : Action Bytes := do
  let text := (← valueOf? "PS4".toList).getD []
  match documentParts (← get).nextDocument text with
  | .ok parts =>
      tryCatch (return Glyph.toBytes (← joiner) (← expand engine wordDepth false parts)) fun stop =>
        match stop with
        | .fault => return text
        | stop => throw stop
  | .error misspelling =>
      modify fun state => { state with line := misspelling.line }
      complain (Bytes.ofString misspelling.message)
      return text

/-- Show a command that is traced, with its assignments before it. The complaints of what the trace itself
runs are not traced. -/
def trace (engine : Engine) (errors? : Option Channel) (assigned : List (Bytes × Bytes))
    (words : List Bytes) : Action Unit := do
  if ← hasOption .xtrace then
    let channels := (← get).channels
    let setTrace (on : Bool) : Action Unit :=
      modify fun state => { state with switches := Switch.set on .xtrace state.switches }
    setTrace false
    let start ← traceStart engine
    setTrace true
    connect 2 errors?
    let texts := assigned.map (fun (name, value) => name ++ '=' :: value) ++ words
    let _ ← write 2 (start ++ Bytes.join [' '] texts ++ ['\n'])
    modify fun state => { state with channels }

/-- Run a simple command. -/
def runSimple (engine : Engine) (standing : Standing) (line : Nat) (assignments : List (Bytes × Word))
    (words : List Word) (redirects : List Redirect) : Action Unit := do
  modify fun state => { state with line, substituted? := none }
  let chosen ← chosenCommand engine words
  let errors? := (← get).channels.lookup 2
  let fields := chosen.fields
  let name := fields.headD []
  let special := !chosen.skipsFunctions && isSpecial name
  let run : Action Unit := do
    if fields.isEmpty then
      trace engine errors? (← assignAll engine false false assignments) []
      finish ((← get).substituted?.getD 0)
    else if special then
      let exports := name == "exec".toList && 1 < fields.length
      trace engine errors? (← assignAll engine false exports assignments) chosen.whole
      runBuiltin engine standing.tested name fields.tail
    else withHidden do
      trace engine errors? (← assignAll engine true true assignments) chosen.whole
      let found ← if chosen.skipsFunctions then ordinaryMeaning chosen.ofSystem name else meaning name
      match found with
      | .builtin =>
          tryCatch (runBuiltin engine standing.tested name fields.tail) fun stop => match stop with
            | .fault => return ()
            | stop => throw stop
      | .function body => callFunction engine standing.tested body fields.tail
      | .program path => startProgram engine standing path fields
      | .unknown obstacle => complainUnstarted name obstacle 127
  let whole : Action Unit := do
    let openings ← redirects.mapM (prepare engine)
    if ← makeAll engine programNames openings then run
    else
      finish 2
      if special then throw .fault
  if name = "exec".toList && fields.length ≤ 1 then whole else keepingChannels whole

end CommandShell.Host.Script
