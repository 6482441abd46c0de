import CommandShell.Host.Programs
import CommandShell.Host.Script.Builtin.Flow
import CommandShell.Host.Script.Builtin.Limits
import CommandShell.Host.Script.Builtin.Places
import CommandShell.Host.Script.Builtin.Processes
import CommandShell.Host.Script.Builtin.Substitutes
import CommandShell.Host.Script.Builtin.Texts
import CommandShell.Host.Script.Builtin.Variables

/-!
What names at the start of a command mean: functions, the commands of the language, of which there is a
table, and programs, which are remembered once they were found.
-/

namespace CommandShell.Host.Script

open Script.Action

/-- The commands of the language by name, those apart that change how commands are run. -/
def Builtin.table (names : Names) : List (String × Builtin) := [
  (".", source names), (":", constant 0), ("[", test names true), ("alias", defineSubstitutes),
  ("bg", control), ("break", break_), ("cd", cd names), ("chdir", cd names), ("continue", continue_),
  ("echo", echo), ("eval", eval), ("exit", exit), ("export", export_), ("false", constant 1),
  ("fg", control), ("getopts", getopts), ("jobs", jobs), ("kill", kill), ("local", local_),
  ("printf", printf), ("pwd", pwd), ("read", read), ("readonly", readonly), ("return", return_),
  ("set", set_), ("shift", shift), ("test", test names false), ("times", times), ("trap", trap),
  ("true", constant 0), ("ulimit", ulimit), ("umask", umask), ("unalias", forgetSubstitutes),
  ("unset", unset), ("wait", wait)]

/-- The names of the program that runs scripts. -/
def shellNames : List String := ["dash", "sh"]

/-- The names of all programs. -/
def programNames : Names := shellNames ++ Programs.table.map (·.1)

/-- The commands that change how commands are run. -/
def commandWords : List String := ["command", "exec", "hash", "type"]

/-- Whether a command of the language has a name. -/
def isBuiltin (name : Bytes) : Bool :=
  let text := String.ofList name
  commandWords.contains text || ((Builtin.table programNames).lookup text).isSome

/-- Whether a command of the language has a name that functions cannot have. -/
def isSpecial (name : Bytes) : Bool := specialBuiltins.contains (String.ofList name)

/-- What a word names at the start of a command. -/
inductive Meaning where
  | function (body : Node)
  | builtin
  /-- A program at a path, if there is one. -/
  | program (path : Bytes)
  | unknown (obstacle : Obstacle)

/-- The directories in which programs of the system are looked for. -/
def systemPath : Bytes :=
  Bytes.ofString "/usr/local/sbin:/usr/local/bin:/usr/sbin:/usr/bin:/sbin:/bin"

/-- The first of some paths at which there is a program. The first firm obstacle is the one that is
told. -/
def firstProgramAt (place : Place) (obstacle : Obstacle) : List Bytes → Except Obstacle Bytes
  | [] => .error obstacle
  | path :: rest =>
      match programAt programNames place (Bytes.toText path) with
      | .ok _ => .ok path
      | .error next => firstProgramAt place (if Obstacle.isFirm obstacle then obstacle else next) rest

/-- Findings with one of them new. A name that was there before keeps its place. -/
def withFinding (finding : Finding) : List Finding → List Finding
  | [] => [finding]
  | other :: rest => if other.name = finding.name then finding :: rest else other :: withFinding finding rest

/-- Look for a program in the directories that the script names, and remember it. -/
def findProgram (name : Bytes) : Action Meaning := do
  let state ← get
  match state.found.find? fun finding => finding.name == name && !finding.stale with
  | some finding => return .program finding.path
  | none => match firstProgramAt state.place .missing (searchPaths state name) with
    | .ok path =>
        set { state with found := withFinding ⟨name, path, false⟩ state.found }
        return .program path
    | .error obstacle =>
        set { state with found := state.found.filter (·.name != name) }
        return .unknown obstacle

/-- Look for a program in the directories of the system. -/
def findSystemProgram (name : Bytes) : Action Meaning := do
  let state ← get
  let system : Variable := ⟨some systemPath, false, false⟩
  let paths := searchPaths { state with bindings := [("PATH".toList, system)] } name
  match firstProgramAt state.place .missing paths with
  | .ok path => return .program path
  | .error obstacle => return .unknown obstacle

/-- What a name means, functions apart. A path names what is there. -/
def ordinaryMeaning (ofSystem : Bool) (name : Bytes) : Action Meaning := do
  if isBuiltin name then return .builtin
  else if name.contains '/' then return .program name
  else if ofSystem then findSystemProgram name
  else findProgram name

/-- What a name means at the start of a command. -/
def meaning (name : Bytes) : Action Meaning := do
  match (← get).functions.lookup name with
  | some body => return .function body
  | none => ordinaryMeaning false name

/-- Describe what a name means, in words or as short as it can be written. -/
def describe (ofSystem verbose : Bool) (name : Bytes) : Action Nat := do
  let say (words short : Bytes) : Action Nat :=
    Builtin.put (if verbose then name ++ ' ' :: words ++ ['\n'] else short ++ ['\n'])
  let missing : Action Nat := do
    if verbose then let _ ← Builtin.put (name ++ Bytes.ofString ": not found\n")
    return 127
  let state ← get
  if keywords.contains (String.ofList name) then return ← say (Bytes.ofString "is a shell keyword") name
  if let some text := state.aliases.lookup name then
    return ← say (Bytes.ofString "is an alias for " ++ text)
      (Bytes.ofString "alias " ++ name ++ '=' :: Builtin.quotedText text)
  if (state.functions.lookup name).isSome then return ← say (Bytes.ofString "is a shell function") name
  match if ofSystem then none else state.found.find? (·.name == name) with
  | some finding => say (Bytes.ofString "is a tracked alias for " ++ finding.path) finding.path
  | none => match ← ordinaryMeaning ofSystem name with
    | .builtin =>
        say (Bytes.ofString (if isSpecial name then "is a special shell builtin" else "is a shell builtin"))
          name
    | .program path =>
        if name.contains '/' && !(find programNames state name).isOk then missing
        else say (Bytes.ofString "is " ++ path) path
    | _ => missing

/-- Describe what names mean. -/
def describeAll (names : List Bytes) : Action Nat := do
  let statuses ← names.mapM (describe false true)
  return statuses.foldl max 0

/-- Answer what a name means; the options choose how. -/
def commandWord (arguments : List Bytes) : Action Nat := do
  let (asked, names) ← Builtin.options ['p', 'v', 'V'] [] arguments
  let has (letter : Char) : Bool := asked.any (·.1 == letter)
  match names with
  | name :: _ => if has 'v' || has 'V' then describe (has 'p') (has 'V') name else return 0
  | [] => return 0

/-- The number of buckets in which programs are remembered. -/
def programBuckets : Nat := 31

/-- Look for programs anew, forget those that were found, or list them. -/
def hashed (arguments : List Bytes) : Action Nat := do
  let (asked, names) ← Builtin.options ['r'] [] arguments
  if !asked.isEmpty then
    modify fun state => { state with found := [] }
    return 0
  if names.isEmpty then
    Builtin.put <| (Builtin.byBucket programBuckets (·.name) (← get).found).flatMap fun finding =>
      finding.path ++ (if finding.stale then ['*'] else []) ++ ['\n']
  else
    let missing ← names.filterM fun name => do
      modify fun state => { state with found := state.found.filter (·.name != name) }
      match ← meaning name with
      | .unknown obstacle =>
          complain (name ++ Bytes.ofString (": " ++ obstacleText "not found" obstacle))
          return true
      | _ => return false
    return if missing.isEmpty then 0 else 1

/-- The words of a command after `command` and its options, and whether they ask for a program of the
system. Nothing is chosen by other options; `none` while more words decide. -/
def chosenWords (ofSystem : Bool) : List Bytes → Option (Option (Bool × List Bytes))
  | [] => none
  | ['-', '-'] :: rest => if rest.isEmpty then none else some (some (ofSystem, rest))
  | ('-' :: letter :: letters) :: rest =>
      if (letter :: letters).all (· == 'p') then chosenWords true rest else some none
  | words => some (some (ofSystem, words))

/-- A command with the words before it that choose what is run. -/
structure Chosen where
  /-- Functions do not count. -/
  skipsFunctions : Bool
  ofSystem : Bool
  fields : List Bytes
  /-- All words, those before the command as well. -/
  whole : List Bytes

/-- What the first words of a command choose; nothing while more words decide. -/
def Chosen.ofFields? (functions : List (Bytes × Node)) : Nat → Chosen → Option Chosen
  | 0, chosen => some chosen
  | steps + 1, chosen =>
      match chosen.fields with
      | [] => none
      | name :: rest =>
          if name = "command".toList && (chosen.skipsFunctions || (functions.lookup name).isNone) then do
            match ← chosenWords chosen.ofSystem rest with
            | some (ofSystem, words) => ofFields? functions steps ⟨true, ofSystem, words, chosen.whole⟩
            | none => return chosen
          else some chosen

end CommandShell.Host.Script
