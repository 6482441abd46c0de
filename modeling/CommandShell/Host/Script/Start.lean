import CommandShell.Host.Script.Meaning

/-!
Shells of their own: the arguments they are started with, and what they start from.
-/

namespace CommandShell.Host.Script

open Script.Action

/-- The variables a shell starts with, given those of its caller that are exported. Some of them always start
with the same values. -/
def startVariables (here : Bytes) (caller : Nat) (exported : List (Bytes × Variable)) :
    List (Bytes × Variable) :=
  let known := (exported.filter (isName ·.1)).map fun (name, content) => (name, { content with fixed := false })
  let given (name : String) (value : Bytes) : Bytes × Variable :=
    (name.toList, ⟨some value, (known.lookup name.toList).isSome, false⟩)
  let usual (name value : String) : Bytes × Variable :=
    (name.toList, (known.lookup name.toList).getD ⟨some (Bytes.ofString value), false, false⟩)
  let own := [
    ("PWD".toList, ⟨some here, true, false⟩), given "IFS" [' ', '\t', '\n'], given "OPTIND" ['1'],
    given "PPID" (Bytes.ofNat caller), usual "PS1" "# ", usual "PS2" "> ", usual "PS4" "+ "]
  own ++ known.filter fun (name, _) => (own.lookup name).isNone

/-- The name by which a shell knows its directory: the one its caller gives, if it names that directory. -/
def startName (place : Place) (exported : List (Bytes × Variable)) : Bytes :=
  let given := ((exported.lookup "PWD".toList).bind (·.value?)).getD []
  match resolve programNames place (Bytes.toText given) with
  | .ok (named, _) =>
      if given.head? = some '/' && named = place then given else Bytes.ofString place.toText
  | .error _ => Bytes.ofString place.toText

/-- The state of a process that becomes a shell, before it reads its arguments. -/
def startState (name : Bytes) (before : State) : State :=
  let exported := before.bindings.filter fun named => named.2.exported && named.2.value?.isSome
  let here := startName before.place exported
  { before with
    name
    parameters := []
    bindings := startVariables here before.parent exported
    functions := []
    documents := []
    nextDocument := 0
    switches := []
    status := 0
    substituted? := none
    interrupted? := none
    traps := []
    unheeded := before.unheededAfter
    shell := before.process
    loops := 0
    calls := 0
    hidden := []
    here
    line := 0
    lineRead := 0
    command? := none
    aliases := []
    found := []
    jobs := []
    background? := none
    optionPlace := .start }

/-- Run what there is to read as a script. -/
def runInput (engine : Engine) : Action Unit := do
  let text ← remaining 0
  leave 0 [] true
  engine.document text

/-- Run the script that the arguments of a shell name: a text among them, a document, or the input. -/
def runArguments (engine : Engine) (arguments : List Bytes) : Action Unit := do
  match Settings.ofArguments true [] arguments with
  | .error misuse => fail misuse.message
  | .ok settings =>
      let readsInput := settings.switches.contains .stdin || settings.operands.isEmpty
      if settings.takesText && settings.operands.isEmpty then
        complain (Bytes.ofString "-c requires an argument")
        let _ ← write 1 settings.shown
        modify fun state => { state with status := 2 }
        throw .fault
      modify fun state => { state with switches := Switch.set readsInput .stdin settings.switches }
      if settings.switches.contains .monitor || settings.switches.contains .interactive then
        modify fun state => { state with switches := Switch.set true .monitor state.switches }
        Builtin.withoutMonitor
      let _ ← write 1 settings.shown
      match settings.takesText, readsInput, settings.operands with
      | true, _, text :: operands =>
          modify fun state => { state with
            name := operands.headD state.name
            parameters := operands.tail }
          engine.text false text
          if readsInput then runInput engine
      | false, false, path :: operands =>
          match readDocument programNames (← get) path with
          | .ok text =>
              modify fun state => { state with name := path, parameters := operands }
              engine.document text
          | .error "Is a directory" => return ()
          | .error _ =>
              fail (Bytes.ofString "cannot open " ++ path ++ Bytes.ofString ": No such file")
      | _, _, operands =>
          modify fun state => { state with parameters := operands }
          runInput engine

/-- Let the process become a shell under a name, up to the end of that shell. -/
def becomeShell (engine : Engine) (name : Bytes) (arguments : List Bytes) : Action Unit := do
  modify (startState name)
  toEnd engine (runArguments engine arguments)

end CommandShell.Host.Script
