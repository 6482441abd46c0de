import CommandShell.Host.Files
import CommandShell.Host.Numeral
import CommandShell.Host.Script.Parser
import CommandShell.Host.Script.Process
import CommandShell.Host.Script.Switch

/-!
What a script works on: variables, parameters, options, traps, where its descriptors lead, and its clock. A
subshell gets a copy of everything but what is behind the channels, which it shares.
-/

namespace CommandShell.Host.Script

/-- What can be done with an open document. -/
inductive Access where
  | reads
  | writes
  /-- Writing always goes to the end. -/
  | appends
  | both
  deriving DecidableEq, Repr

/-- Where a descriptor leads. -/
inductive Channel where
  /-- A stream that collects what is written to it. -/
  | stream (number : Nat)
  /-- A text that is read once. -/
  | source (number : Nat)
  /-- A document that a script wrote, from the place on that has a number. -/
  | document (path : Bytes) (place : Nat) (access : Access)
  /-- The error stream of the host, which nobody reads. -/
  | complaints
  | nowhere
  /-- A device that takes nothing more. -/
  | full
  deriving DecidableEq, Repr

/-- A variable of a script. One without a value only has its marks. -/
structure Variable where
  value? : Option Bytes
  exported : Bool
  fixed : Bool
  deriving DecidableEq, Repr

/-- What all processes of a run share. -/
structure Shared where
  streams : List (Nat × Stream)
  supplies : List (Nat × Supply)
  /-- The documents that were written, by their paths. -/
  written : List (Bytes × Bytes)
  /-- The places in open documents, by their numbers. -/
  places : List (Nat × Nat)
  nextChannel : Nat
  nextProcess : Nat
  processes : List Process
  /-- Signals on their way. -/
  arrivals : List Arrival
  /-- The signals that were on their way from the start of the run. -/
  foreseen : List Arrival

/-- What is hidden for a while: variables, the last one first, and options. -/
structure Hidden where
  bindings : List (Bytes × Option Variable)
  switches? : Option (List Switch)

/-- A program that was found for a name. It is looked for again once it is stale. -/
structure Finding where
  name : Bytes
  path : Bytes
  stale : Bool
  deriving DecidableEq, Repr

/-- A limit of a process: the one that holds, and the greatest one that it can set. -/
structure Limit where
  soft : Nat
  hard : Nat
  deriving DecidableEq, Repr

/-- Where `getopts` is: the number of the next word, and the place in the word before it. -/
structure OptionPlace where
  next : Nat
  inside? : Option Nat
  deriving DecidableEq, Repr

/-- The place before all options. -/
def OptionPlace.start : OptionPlace := ⟨1, none⟩

/-- The state of a script. -/
structure State where
  shared : Shared
  name : Bytes
  parameters : List Bytes
  bindings : List (Bytes × Variable)
  functions : List (Bytes × Node)
  documents : List (Nat × Word)
  nextDocument : Nat
  switches : List Switch
  status : Nat
  /-- The status of the last command whose output became a part of a word. -/
  substituted? : Option Nat
  /-- The status before the trap that is running. -/
  interrupted? : Option Nat
  traps : List (Nat × Bytes)
  /-- Signals that the caller of the shell takes no notice of, and so cannot reach it. -/
  unheeded : List Nat
  channels : List (Nat × Channel)
  /-- The number of the process, that of its parent, and that of the shell it is or belongs to. -/
  process : Nat
  parent : Nat
  shell : Nat
  lineage : Lineage
  /-- How many children there were. -/
  children : Nat
  now : Instant
  /-- Whether others go on while this process does not end. -/
  detached : Bool
  /-- How many loops deep inside the function. -/
  loops : Nat
  /-- How many functions deep. -/
  calls : Nat
  /-- What functions and commands hide, the innermost one first. -/
  hidden : List Hidden
  place : Place
  /-- The name by which the script knows its directory. -/
  here : Bytes
  line : Nat
  /-- The line up to which the script was read. -/
  lineRead : Nat
  /-- The command of the language that runs. -/
  command? : Option Bytes
  /-- The words that stand for other texts, in the order they were named. -/
  aliases : List (Bytes × Bytes)
  /-- The programs that were found, in the order they were looked for. -/
  found : List Finding
  /-- The commands in the background, the last one first. -/
  jobs : List Job
  /-- The last process in the background. -/
  background? : Option Nat
  optionPlace : OptionPlace
  /-- The permissions that new documents do not get. -/
  mask : Nat
  /-- The limits of the process, by the letters of their kinds. -/
  limits : List (Char × Limit)

/-- What the process does at a signal. -/
def State.reaction (state : State) (signal : Nat) : Reaction :=
  if signal = Signal.kill then .dies
  else if state.unheeded.contains signal then .nothing
  else match state.traps.lookup signal with
    | some text => if text.isEmpty then .nothing else .runs text
    | none => if Signal.isHarmless signal then .nothing else .dies

/-- Why a script does not go on with its next command. -/
inductive Stop where
  | leaves (loops : Nat)
  | continues (loops : Nat)
  | returns
  | exits
  | fault
  /-- A signal ends the process. -/
  | dies (signal : Nat)
  /-- The process never ends. -/
  | hangs
  /-- A signal reaches a process that has already run beyond that time, so all of the run changes. -/
  | revises (arrival : Arrival)
  deriving DecidableEq, Repr

/-- A step of a script. -/
abbrev Action := ExceptT Stop (StateM State)

/-- How a command stands in its script: whether its status is tested, and whether its process ends with
it. -/
structure Standing where
  tested : Bool
  final : Bool
  deriving DecidableEq, Repr

namespace Standing

/-- The command is the condition of another one. -/
def condition : Standing := ⟨true, false⟩

/-- The command is all that a process does. -/
def whole : Standing := ⟨false, true⟩

/-- Something follows the command. -/
def followed (standing : Standing) : Standing := { standing with final := false }

/-- The command is the last one of its process. -/
def last (standing : Standing) : Standing := { standing with final := true }

end Standing

/-- The runners that call each other in circles. That of texts is told whether their status is tested. -/
structure Engine where
  /-- A bound for the rounds of a loop. -/
  rounds : Nat
  node : Standing → Node → Action Unit
  text : Bool → Bytes → Action Unit
  /-- Run a script that is read from a document, whose lines are shown when the script asks for that. -/
  document : Bytes → Action Unit

namespace Action

/-- The variable with a name. -/
def variableOf? (name : Bytes) : Action (Option Variable) := do
  return (← get).bindings.lookup name

/-- The value of a variable. -/
def valueOf? (name : Bytes) : Action (Option Bytes) := do
  return (← variableOf? name).bind (·.value?)

/-- A text with another text in it from a place on. What lies between them is filled with zeros. -/
def overwritten (before : Bytes) (place : Nat) (text : Bytes) : Bytes :=
  before.take place ++ List.replicate (place - before.length) '\x00' ++ text ++
    before.drop (place + text.length)

/-- Move the place in an open document. -/
def moveTo (number place : Nat) : Action Unit :=
  modify fun state => { state with shared := { state.shared with
    places := (number, place) :: state.shared.places.filter (·.1 != number) } }

/-- Send a signal to the process itself. -/
def send (signal : Nat) : Action Unit := do
  let state ← get
  match state.reaction signal with
  | .nothing => return ()
  | .dies => throw (.dies signal)
  | .runs _ =>
      let arrival : Arrival := ⟨state.lineage, signal, state.now⟩
      set { state with shared := { state.shared with
        arrivals := state.shared.arrivals ++ [arrival] } }

/-- Write to the place that a descriptor leads to, and tell whether all could be written. -/
def write (descriptor : Nat) (text : Bytes) : Action Bool := do
  let state ← get
  let shared := state.shared
  match state.channels.lookup descriptor with
  | some (.stream number) =>
      let before := (shared.streams.lookup number).getD .empty
      let after := { before with chunks := ⟨state.now, state.lineage, text⟩ :: before.chunks }
      if !text.isEmpty then
        set { state with shared := { shared with
          streams := (number, after) :: shared.streams.filter (·.1 != number) } }
      return true
  | some (.document _ _ .reads) => return text.isEmpty
  | some (.document path number access) =>
      let before := (shared.written.lookup path).getD []
      let place := if access = .appends then before.length else (shared.places.lookup number).getD 0
      let fitting := match state.limits.lookup 'f' with
        | some limit => text.take (limit.soft - place)
        | none => text
      if !fitting.isEmpty then
        set { state with shared := { shared with
          written := (path, overwritten before place fitting) :: shared.written.filter (·.1 != path) } }
        moveTo number (place + fitting.length)
      if fitting.length < text.length then send Signal.tooLarge
      return fitting.length = text.length
  | some (.source _) => return text.isEmpty
  | some .full => return text.isEmpty
  | some _ => return true
  | none => return text.isEmpty

/-- Complain in a line that names the script, the line in it, and the command of the language. -/
def complain (message : Bytes) : Action Unit := do
  let state ← get
  let command := (state.command?.map (· ++ [':', ' '])).getD []
  let _ ← write 2 (state.name ++ [':', ' '] ++ Bytes.ofNat state.line ++ [':', ' '] ++ command ++
    message ++ ['\n'])

/-- Complain, and give up what is being done. -/
def fail {Value : Type} (message : Bytes) : Action Value := do
  complain message
  modify fun state => { state with status := 2 }
  throw .fault

/-- Set the status. -/
def finish (status : Nat) : Action Unit := modify fun state => { state with status }

/-- Whether an option is on. -/
def hasOption (option : Switch) : Action Bool := do return (← get).switches.contains option

/-- Put a variable in place of the one with its name. -/
def putVariable (name : Bytes) (content : Variable) : Action Unit :=
  modify fun state => { state with
    bindings := (name, content) :: state.bindings.filter (·.1 != name) }

/-- The greatest number that an argument can give. -/
def numberLimit : Nat := Nat.pow 2 31 - 1

/-- A text that must be a number that is not below zero. -/
def number (text : Bytes) : Action Nat := do
  let reading := Numeral.integer (some 10) text
  let (value, fits) := Numeral.signed reading
  if reading.found && reading.rest.all Numeral.isBlank && fits && decide (0 ≤ value) &&
      decide (value ≤ numberLimit) then return value.toNat
  else fail (Bytes.ofString "Illegal number: " ++ text)

/-- What follows from a new value of a variable: programs are looked for anew in other directories, and
options are read again from the word with a number. -/
def valueChanged (name value : Bytes) : Action Unit := do
  if name = "PATH".toList then modify fun state => { state with found := [] }
  else if name = "OPTIND".toList then
    let next := max 1 (← number value)
    modify fun state => { state with optionPlace := ⟨next, none⟩ }

/-- Give a variable a value without what follows from that. One that is fixed keeps its own. -/
def assignOnly (name value : Bytes) : Action Unit := do
  let before := (← variableOf? name).getD ⟨none, false, false⟩
  if before.fixed then fail (name ++ Bytes.ofString ": is read only")
  let exported := before.exported || (← hasOption .allexport)
  putVariable name { before with value? := some value, exported }

/-- Give a variable a value. -/
def assign (name value : Bytes) : Action Unit := do
  if !(← variableOf? name).any (·.fixed) then valueChanged name value
  assignOnly name value

/-- The variables that a shell itself has. -/
def ownNames : List String := ["IFS", "MAIL", "MAILPATH", "OPTIND", "PATH", "PS1", "PS2", "PS4"]

/-- Forget the value of a variable. The marks of one that the shell has or that is hidden stay. -/
def forget (name : Bytes) : Action Unit := do
  let before? ← variableOf? name
  if before?.any (·.fixed) then fail (name ++ Bytes.ofString ": is read only")
  valueChanged name []
  let state ← get
  let stays := ownNames.contains (String.ofList name) ||
    state.hidden.any fun hidden => (hidden.bindings.lookup name).isSome
  match before? with
  | some before =>
      if stays && before.exported then putVariable name { before with value? := none }
      else set { state with bindings := state.bindings.filter (·.1 != name) }
  | none => return ()

/-- Complain of a name that no variable can have. -/
def requireName (name : Bytes) : Action Unit := do
  if !isName name then fail (name ++ Bytes.ofString ": bad variable name")

/-- Hide a variable: what it holds comes back when what hides it ends. -/
def hide (name : Bytes) : Action Unit := do
  let before? ← variableOf? name
  modify fun state => match state.hidden with
    | [] => state
    | innermost :: outer => { state with
        hidden := { innermost with bindings := (name, before?) :: innermost.bindings } :: outer }

/-- Bring back a variable as it was. -/
def bringBack (name : Bytes) (before? : Option Variable) : Action Unit := do
  modify fun state => { state with
    bindings := before?.toList.map (name, ·) ++ state.bindings.filter (·.1 != name) }
  match before?.bind (·.value?) with
  | some value => valueChanged name value
  | none => return ()

/-- Run something, and something else afterwards however it ends. -/
def afterwards {Value : Type} (last : Action Unit) (action : Action Value) : Action Value := do
  let value ← tryCatch action fun stop => do
    last
    throw stop
  last
  return value

/-- Run something that can hide variables and options, which come back at its end. -/
def withHidden (action : Action Unit) : Action Unit := do
  modify fun state => { state with hidden := ⟨[], none⟩ :: state.hidden }
  let reveal : Action Unit := do
    let state ← get
    if let innermost :: outer := state.hidden then
      set { state with hidden := outer, switches := innermost.switches?.getD state.switches }
      innermost.bindings.forM fun (name, before?) => bringBack name before?
  afterwards reveal action

/-- A new stream or text. -/
def newChannel : Action Nat := do
  let state ← get
  let number := state.shared.nextChannel
  set { state with shared := { state.shared with nextChannel := number + 1 } }
  return number

/-- A channel that reads what is supplied. -/
def sourceOf (supply : Supply) : Action Channel := do
  let number ← newChannel
  modify fun state => { state with shared := { state.shared with
    supplies := (number, supply) :: state.shared.supplies } }
  return .source number

/-- What is left to read from a descriptor. -/
def remaining (descriptor : Nat) : Action Bytes := do
  let state ← get
  match state.channels.lookup descriptor with
  | some (.source number) => return ((state.shared.supplies.lookup number).map Supply.text).getD []
  | some (.document path number access) =>
      if access = .writes || access = .appends then return []
      let text := (state.shared.written.lookup path).getD []
      return text.drop ((state.shared.places.lookup number).getD 0)
  | _ => return []

/-- Leave only some text to read from a descriptor. What was read, and its end if that was met, had to come
first. -/
def leave (descriptor : Nat) (rest : Bytes) (ended : Bool) : Action Unit := do
  let state ← get
  match state.channels.lookup descriptor with
  | some (.source number) =>
      if let some supply := state.shared.supplies.lookup number then
        let (came, texts) := Supply.skip state.now (supply.text.length - rest.length) supply.texts
        set { state with
          now := if ended then max came supply.closes else came
          shared := { state.shared with
            supplies := (number, { supply with texts }) ::
              state.shared.supplies.filter (·.1 != number) } }
  | some (.document path number _) =>
      moveTo number (((state.shared.written.lookup path).getD []).length - rest.length)
  | _ => return ()

/-- Let a descriptor lead somewhere, or nowhere at all. -/
def connect (descriptor : Nat) (channel? : Option Channel) : Action Unit :=
  modify fun state => { state with
    channels := channel?.toList.map (descriptor, ·) ++
      state.channels.filter (·.1 != descriptor) }

end Action

end CommandShell.Host.Script
