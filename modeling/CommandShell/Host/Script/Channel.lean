import CommandShell.Host.Script.Expansion
import CommandShell.Host.Tool

/-!
The documents and channels of a script: what a path names for it, and what a redirection does.
-/

namespace CommandShell.Host.Script

open Script.Action

/-- The names of the programs of the host. -/
abbrev Names := List String

/-- The path up to its last step, and that step. -/
def lastStep (path : Bytes) : Bytes × Bytes :=
  let name := (path.reverse.takeWhile (· != '/')).reverse
  (path.take (path.length - name.length), name)

/-- The place where a path has a document or would have one, when its directory is there. -/
def documentPath? (names : Names) (state : State) (path : Bytes) : Option Bytes :=
  let (above, name) := lastStep path
  match resolve names state.place (Bytes.toText (if above.isEmpty then ['.'] else above)) with
  | .ok (place, .directory) =>
      if name.isEmpty || name = ['.'] || name = ['.', '.'] then none
      else some (Bytes.ofString (Place.toText (place ++ [Bytes.toText name])))
  | _ => none

/-- The document that a script wrote at a path, with its text. -/
def writtenAt? (names : Names) (state : State) (path : Bytes) : Option (Bytes × Bytes) := do
  let path ← documentPath? names state path
  return (path, ← state.shared.written.lookup path)

/-- The descriptor that a path names. -/
def descriptorAt? (path : Bytes) : Option Nat :=
  match ([("/dev/stdin", 0), ("/dev/stdout", 1), ("/dev/stderr", 2)] : List (String × Nat)).lookup
      (Bytes.toText path) with
  | some number => some number
  | none => do
      let start ← ["/dev/fd/", "/proc/self/fd/"].find? fun start => start.toList.isPrefixOf path
      let name := path.drop start.length
      if !name.isEmpty && name.all Char.isDigit then (String.ofList name).toNat? else none

/-- What a path names for a script, and where. -/
def find (names : Names) (state : State) (path : Bytes) : Except Obstacle (Place × Entry) :=
  match resolve names state.place (Bytes.toText path) with
  | .ok found => .ok found
  | .error obstacle =>
      match writtenAt? names state path with
      | some (path, _) => .ok (Place.ofText (Bytes.toText path), .document)
      | none => .error obstacle

/-- The text of a document, or why it cannot be read. What is in documents of the host is not
known. -/
def readDocument (names : Names) (state : State) (path : Bytes) : Except String Bytes :=
  match (descriptorAt? path).bind (state.channels.lookup ·), writtenAt? names state path with
  | some (.source number), _ => .ok (((state.shared.supplies.lookup number).map Supply.text).getD [])
  | some (.document path number _), _ => .ok (((state.shared.written.lookup path).getD []).drop
      ((state.shared.places.lookup number).getD 0))
  | _, some (_, text) => .ok text
  | _, none => match resolve names state.place (Bytes.toText path) with
    | .ok (_, .directory) => .error "Is a directory"
    | .ok _ => .ok []
    | .error obstacle => .error obstacle.message

/-- How conditions see the file system of a script. -/
def view (names : Names) (state : State) : Condition.View where
  find? path := (find names state path).toOption
  isLink path := ((documentPath? names state path).bind fun path =>
    links.lookup (Place.ofText (Bytes.toText path))).isSome

/-- An obstacle as a redirection tells it. -/
def obstacleText (missing : String) : Obstacle → String
  | .missing => missing
  | .notDirectory => missing
  | obstacle => obstacle.message

/-- The channel of a document that is read. -/
def openRead (names : Names) (path : Bytes) : Action Channel := do
  let state ← get
  match (descriptorAt? path).bind (state.channels.lookup ·), writtenAt? names state path with
  | some channel, _ => return channel
  | none, some (path, _) => return .document path (← newChannel) .reads
  | none, none => match resolve names state.place (Bytes.toText path) with
    | .ok _ => return .nowhere
    | .error obstacle =>
        fail (Bytes.ofString "cannot open " ++ path ++
          Bytes.ofString (": " ++ obstacleText "No such file" obstacle))

/-- The channel of a document that is written. One that is only written from its start loses its text, and one
that must be new is refused if it is there. -/
def openWrite (names : Names) (access : Access) (mustBeNew : Bool) (path : Bytes) : Action Channel := do
  let state ← get
  let refuse (reason : String) : Action Channel :=
    fail (Bytes.ofString "cannot create " ++ path ++ Bytes.ofString (": " ++ reason))
  let write (path text : Bytes) : Action Channel := do
    modify fun state => { state with shared := { state.shared with
      written := (path, text) :: state.shared.written.filter (·.1 != path) } }
    return .document path (← newChannel) access
  if let some number := descriptorAt? path then
    match state.channels.lookup number with
    | some channel => return channel
    | none => return ← refuse "Directory nonexistent"
  match writtenAt? names state path with
  | some (path, text) =>
      if mustBeNew then refuse "File exists" else write path (if access = .writes then [] else text)
  | none => match resolve names state.place (Bytes.toText path) with
    | .ok (_, .directory) => refuse "Is a directory"
    | .ok (place, .device) => return if place = ["dev", "full"] then .full else .nowhere
    | .ok _ => if mustBeNew then refuse "File exists" else return .nowhere
    | .error .missing =>
        match documentPath? names state path with
        | some path => write path []
        | none =>
            let (above, name) := lastStep path
            if !above.isEmpty && name.isEmpty && (documentPath? names state above.dropLast).isSome then
              refuse "Is a directory"
            else refuse "Directory nonexistent"
    | .error obstacle => refuse (obstacleText "Directory nonexistent" obstacle)

/-- A redirection with its target expanded. -/
structure Opening where
  descriptor : Nat
  direction : Direction
  target : Bytes
  document : Nat
  deriving DecidableEq, Repr

/-- Expand the target of a redirection. A target that cannot be a descriptor is told as if the script could
not be read further. -/
def prepare (engine : Engine) : Redirect → Action Opening
  | .mk descriptor direction target document => do
      let text ← if direction = .document then pure [] else expandText engine target
      if let .copy _ := direction then
        if text != ['-'] && !(text.length = 1 && text.all Char.isDigit) then
          modify fun state => { state with line := state.lineRead }
          fail (Bytes.ofString "Syntax error: Bad fd number")
      return ⟨descriptor, direction, text, document⟩

/-- Make a redirection. -/
def Opening.make (engine : Engine) (names : Names) (opening : Opening) : Action Unit := do
  match opening.direction with
  | .document =>
      let parts := ((← get).documents.lookup opening.document).getD []
      let text := Glyph.toBytes (← joiner) (← expand engine wordDepth false parts)
      connect opening.descriptor (some (← sourceOf (.ofBytes text)))
  | .copy _ =>
      if opening.target = ['-'] then connect opening.descriptor none
      else
        let number := opening.target.foldl (fun _ digit => digit.toNat - '0'.toNat) 0
        match (← get).channels.lookup number with
        | some channel => connect opening.descriptor (some channel)
        | none => fail (opening.target ++ Bytes.ofString ": Bad file descriptor")
  | .read => connect opening.descriptor (some (← openRead names opening.target))
  | .write forces =>
      let mustBeNew := !forces && (← hasOption .noclobber)
      connect opening.descriptor (some (← openWrite names .writes mustBeNew opening.target))
  | .append => connect opening.descriptor (some (← openWrite names .appends false opening.target))
  | .readWrite => connect opening.descriptor (some (← openWrite names .both false opening.target))

/-- Make redirections in order, and tell whether none was a fault. -/
def makeAll (engine : Engine) (names : Names) (openings : List Opening) : Action Bool :=
  tryCatch
    (do
      openings.forM (Opening.make engine names)
      return true)
    fun stop => match stop with
      | .fault => return false
      | stop => throw stop

/-- Run something and let the descriptors lead where they led before, however it ends. -/
def keepingChannels {Value : Type} (action : Action Value) : Action Value := do
  let channels := (← get).channels
  afterwards (modify fun state => { state with channels }) action

end CommandShell.Host.Script
