import CommandShell.Host.Script.Builtin

/-!
The commands of the language that say how a script goes on, and those that run other scripts.
-/

namespace CommandShell.Host.Script.Builtin

open Script.Action

/-- End the shell. -/
def exit : Builtin := fun _ arguments => do
  match arguments with
  | [] =>
      let state ← get
      finish (state.interrupted?.getD state.status)
  | text :: _ => finish (← number text)
  throw .exits

/-- End the function. -/
def return_ : Builtin := fun _ arguments => do
  if let text :: _ := arguments then finish (← number text)
  throw .returns

/-- How many loops an argument means; there cannot be more than are running. -/
def loopCount (arguments : List Bytes) : Action Nat := do
  let count ← match arguments with
    | [] => pure 1
    | text :: _ => number text
  if count = 0 then refuse "Illegal number: " (arguments.headD [])
  return min count (← get).loops

/-- Leave loops. -/
def break_ : Builtin := fun _ arguments => do
  let count ← loopCount arguments
  finish 0
  if count = 0 then return 0 else throw (.leaves count)

/-- Go on with the next round of a loop. -/
def continue_ : Builtin := fun _ arguments => do
  let count ← loopCount arguments
  finish 0
  if count = 0 then return 0 else throw (.continues count)

/-- Run arguments as a script. -/
def eval : Builtin := fun engine arguments => do
  engine.text false (Bytes.join [' '] arguments)
  return (← get).status

/-- The path of a script. One without a slash is looked for where programs are. -/
def scriptPath (names : Names) (path : Bytes) : Action Bytes := do
  if path.contains '/' then return path
  let state ← get
  let isDocument (path : Bytes) : Bool := match find names state path with
    | .ok (_, .document) => true
    | .ok (_, .program _) => true
    | _ => false
  match (searchPaths state path).find? isDocument with
  | some found => return found
  | none => fail (path ++ bytes ": not found")

/-- Run a document as a script. -/
def source (names : Names) : Builtin := fun engine arguments => do
  let (_, arguments) ← options [] [] arguments
  match arguments with
  | [] => return 0
  | path :: _ =>
      let path ← scriptPath names path
      match readDocument names (← get) path with
      | .ok text =>
          modify fun state => { state with command? := some path }
          tryCatch (engine.document text) fun stop => match stop with
            | .returns => return ()
            | stop => throw stop
          return (← get).status
      | .error "Is a directory" => return 0
      | .error _ => refuse "cannot open " (path ++ bytes ": No such file")

end CommandShell.Host.Script.Builtin
