import CommandShell.Host.Script.Builtin

/-!
The commands of the language that set variables, parameters and options.
-/

namespace CommandShell.Host.Script.Builtin

open Script.Action

/-- The named in the order of their names. -/
def sortedByName {Value : Type} (named : List (Bytes × Value)) : List (Bytes × Value) :=
  named.mergeSort fun first second => Bytes.precedes first.1 second.1

/-- Give the script other parameters. Options are then read from the first one on. -/
def setParameters (parameters : List Bytes) : Action Unit :=
  modify fun state => { state with parameters, optionPlace := .start }

/-- Drop parameters. -/
def shift : Builtin := fun _ arguments => do
  let count ← match arguments with
    | [] => pure 1
    | text :: _ => number text
  let parameters := (← get).parameters
  if parameters.length < count then fail (bytes "can't shift that many")
  setParameters (parameters.drop count)
  return 0

/-- Commands in the background cannot be controlled without a terminal. -/
def withoutMonitor : Action Unit := do
  if ← hasOption .monitor then
    complain (bytes "can't access tty; job control turned off")
    modify fun state => { state with switches := Switch.set false .monitor state.switches }

/-- Set options and parameters; without arguments, list the variables. -/
def set_ : Builtin := fun _ arguments => do
  let state ← get
  if arguments.isEmpty then
    put <| (sortedByName state.bindings).flatMap fun (name, content) =>
      (content.value?.map (assignmentLine name)).getD []
  else match Settings.ofArguments false state.switches arguments with
    | .error misuse => fail misuse.message
    | .ok settings =>
        set { state with switches := settings.switches }
        withoutMonitor
        if settings.ended || !settings.operands.isEmpty then setParameters settings.operands
        if settings.shown.isEmpty then return 0 else put settings.shown

/-- The name and the value of an argument that assigns. -/
def assignmentOf (argument : Bytes) : Bytes × Option Bytes :=
  let name := argument.takeWhile (· != '=')
  match argument.drop name.length with
  | [] => (name, none)
  | _ :: value => (name, some value)

/-- Give variables a mark, and values where arguments have them. Without names, list those that have the
mark. -/
def mark (command : String) (change : Variable → Variable) : Builtin := fun _ arguments => do
  let (asked, arguments) ← options ['p'] [] arguments
  if !asked.isEmpty || arguments.isEmpty then
    let marked := (← get).bindings.filter fun (_, content) => change content == content
    put <| (sortedByName marked).flatMap fun (name, content) =>
      bytes command ++ ' ' :: match content.value? with
        | some value => assignmentLine name value
        | none => name ++ ['\n']
  else
    arguments.forM fun argument => do
      let (name, value?) := assignmentOf argument
      requireName name
      if let some value := value? then assign name value
      putVariable name (change ((← variableOf? name).getD ⟨none, false, false⟩))
    return 0

/-- Mark variables for the programs that are started. -/
def export_ : Builtin := mark "export" fun content => { content with exported := true }

/-- Mark variables that keep their values. -/
def readonly : Builtin := mark "readonly" fun content => { content with fixed := true }

/-- Forget variables, or functions if the last option says so. -/
def unset : Builtin := fun _ arguments => do
  let (asked, names) ← options ['f', 'v'] [] arguments
  let forgetsFunctions := (asked.getLast?.map (·.1)) == some 'f'
  names.forM fun name => do
    if forgetsFunctions then
      modify fun state => { state with functions := state.functions.filter (·.1 != name) }
    else
      requireName name
      forget name
  return 0

/-- Hide variables, or for a dash the options, until the function ends. -/
def local_ : Builtin := fun _ arguments => do
  if (← get).hidden.isEmpty then fail (bytes "not in a function")
  arguments.forM fun argument => do
    if argument = ['-'] then
      modify fun state => match state.hidden with
        | [] => state
        | innermost :: outer => { state with
            hidden := { innermost with switches? := some (innermost.switches?.getD state.switches) } :: outer }
    else match assignmentOf argument with
      | (name, some value) => do
          hide name
          assign name value
      | (name, none) => do
          if (← variableOf? name).isNone then requireName name
          hide name
  return 0

/-- The text of options that is left in the word before the next one. -/
def optionRest? (place : OptionPlace) (words : List Bytes) : Option Bytes := do
  let inside ← place.inside?
  let word ← if place.next ≤ 1 then none else words[place.next - 2]?
  if inside < word.length then some (word.drop inside) else none

/-- The text of the next options, and the number of the word after it; nothing at the end of all options. -/
def nextOptions (place : OptionPlace) (words : List Bytes) : Option Bytes × Nat :=
  match optionRest? place words with
  | some rest => (some rest, place.next)
  | none => match words[place.next - 1]? with
    | some ['-', '-'] => (none, place.next + 1)
    | some ('-' :: first :: more) => (some (first :: more), place.next + 1)
    | _ => (none, place.next)

/-- What stands in a list of letters after one of them. -/
def afterLetter? (letter : Char) : Bytes → Option Bytes
  | [] => none
  | found :: rest =>
      if found = letter then some rest
      else match rest with
        | ':' :: rest => afterLetter? letter rest
        | rest => afterLetter? letter rest

/-- Read the next option of the parameters, or of other words, into a variable. -/
def getopts : Builtin := fun _ arguments => do
  match arguments with
  | letters :: name :: given =>
      let state ← get
      let words := if given.isEmpty then state.parameters else given
      let place := if words.length + 1 < state.optionPlace.next then .start else state.optionPlace
      set { state with optionPlace := .start }
      let finishWith (letter : Char) (place : OptionPlace) (status : Nat) : Action Nat := do
        assignOnly "OPTIND".toList (Bytes.ofNat place.next)
        requireName name
        assign name [letter]
        modify fun state => { state with optionPlace := place }
        return status
      let argument : Bytes := "OPTARG".toList
      let silent := letters.head? = some ':'
      match nextOptions place words with
      | (some (letter :: rest), next) =>
          let inside := (words[next - 2]?.getD []).length - rest.length
          match afterLetter? letter letters with
          | none =>
              if silent then assign argument [letter]
              else
                let _ ← write 2 (bytes "Illegal option -" ++ [letter, '\n'])
                forget argument
              finishWith '?' ⟨next, some inside⟩ 0
          | some (':' :: _) =>
              if !rest.isEmpty then
                assign argument rest
                finishWith letter ⟨next, none⟩ 0
              else match words[next - 1]? with
                | some value =>
                    assign argument value
                    finishWith letter ⟨next + 1, none⟩ 0
                | none =>
                    if silent then
                      assign argument [letter]
                      finishWith ':' ⟨next, none⟩ 0
                    else
                      let _ ← write 2 (bytes "No arg for -" ++ letter :: bytes " option\n")
                      forget argument
                      finishWith '?' ⟨next, none⟩ 0
          | some _ =>
              assign argument []
              finishWith letter ⟨next, some inside⟩ 0
      | (_, next) => finishWith '?' ⟨next, none⟩ 1
  | _ => fail (bytes "Usage: getopts optstring var [arg...]")

end CommandShell.Host.Script.Builtin
