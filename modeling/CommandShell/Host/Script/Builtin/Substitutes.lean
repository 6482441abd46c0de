import CommandShell.Host.Script.Builtin

/-!
The commands of the language that let words stand for other texts.
-/

namespace CommandShell.Host.Script.Builtin

open Script.Action

/-- The number of buckets in which these words are kept. -/
def substituteBuckets : Nat := 39

/-- Tell that a word stands for nothing else. -/
def tellMissing (command : String) (name : Bytes) : Action Unit := do
  let _ ← write 2 (bytes (command ++ ": ") ++ name ++ bytes " not found\n")

/-- Names with texts, one of them with another text. A name that was there before keeps its place. -/
def withText (name text : Bytes) : List (Bytes × Bytes) → List (Bytes × Bytes)
  | [] => [(name, text)]
  | (other, before) :: rest =>
      if other = name then (name, text) :: rest else (other, before) :: withText name text rest

/-- Let words stand for texts, or tell what they stand for. -/
def defineSubstitutes : Builtin := fun _ arguments => do
  if arguments.isEmpty then
    put <| (byBucket substituteBuckets (·.1) (← get).aliases).flatMap fun (name, text) =>
      assignmentLine name text
  else
    let missing ← arguments.filterM fun argument => do
      let size := match argument with
        | [] => 0
        | _ :: rest => 1 + (rest.takeWhile (· != '=')).length
      match argument.drop size with
      | _ :: text =>
          modify fun state => { state with
            aliases := withText (argument.take size) text state.aliases }
          return false
      | [] => match (← get).aliases.lookup argument with
        | some text =>
            let _ ← put (assignmentLine argument text)
            return false
        | none =>
            tellMissing "alias" argument
            return true
    return if missing.isEmpty then 0 else 1

/-- Let words stand for themselves again. -/
def forgetSubstitutes : Builtin := fun _ arguments => do
  let (asked, names) ← options ['a'] [] arguments
  if !asked.isEmpty then
    modify fun state => { state with aliases := [] }
    return 0
  let missing ← names.filterM fun name => do
    let state ← get
    set { state with aliases := state.aliases.filter (·.1 != name) }
    if (state.aliases.lookup name).isSome then return false
    tellMissing "unalias" name
    return true
  return if missing.isEmpty then 0 else 1

end CommandShell.Host.Script.Builtin
