import CommandShell.Host.Script.Builtin

/-!
The commands of the language that go to other directories, and the permissions of new documents.
-/

namespace CommandShell.Host.Script.Builtin

open Script.Action

/-- A path without detours, written from the root. Two slashes at the start stay, and a step back takes
away a name whatever it names. -/
def plainPath (here path : Bytes) : Bytes :=
  let whole := if path.head? = some '/' then path
    else if here.getLast? = some '/' then here ++ path
    else here ++ '/' :: path
  let start : Bytes := if (whole.takeWhile (· == '/')).length = 2 then ['/', '/'] else ['/']
  let steps := (splitSteps whole).foldl
    (fun steps step =>
      if step.isEmpty || step = ['.'] then steps
      else if step = ['.', '.'] then steps.dropLast
      else steps ++ [step]) []
  start ++ Bytes.join ['/'] steps
where
  /-- The steps between slashes. -/
  splitSteps (path : Bytes) : List Bytes :=
    path.foldr
      (fun char steps => if char = '/' then [] :: steps else match steps with
        | [] => [[char]]
        | step :: others => (char :: step) :: others)
      [[]]

/-- Whether a path does not depend on where directories are looked for. -/
def isDirect (path : Bytes) : Bool :=
  let start := path.takeWhile (· != '/')
  (start.isEmpty && !path.isEmpty) || start = ['.'] || start = ['.', '.']

/-- The directory that a path names, where directories are looked for if the script says where, and whether
it must be told. -/
def searchDirectory (names : Names) (target : Bytes) : Action (Bytes × Bool) := do
  if isDirect target then return (target, false)
  let target := if target.isEmpty then ['.'] else target
  let state ← get
  let isDirectory (path : Bytes) : Bool := match find names state path with
    | .ok (_, .directory) => true
    | _ => false
  let starts := match ← valueOf? "CDPATH".toList with
    | some starts => colonParts starts
    | none => []
  let pathFrom (start : Bytes) : Bytes := if start.isEmpty then target else start ++ '/' :: target
  match starts.find? fun start => isDirectory (pathFrom start) with
  | some start => return (pathFrom start, !start.isEmpty)
  | none => return (target, false)

/-- Whether the last of the options asks for the directory itself and not for the name it was reached by. -/
def isPhysical (asked : List (Char × Bytes)) : Bool := asked.getLast?.map (·.1) == some 'P'

/-- Go to another directory. -/
def cd (names : Names) : Builtin := fun _ arguments => do
  let (asked, operands) ← options ['L', 'P'] [] arguments
  let goesBack := operands.head? = some ['-']
  let target ← match operands.head? with
    | none => pure ((← valueOf? "HOME".toList).getD [])
    | some target => if goesBack then pure ((← valueOf? "OLDPWD".toList).getD []) else pure target
  let (path, isTold) ← searchDirectory names target
  let state ← get
  let plain := plainPath state.here path
  match resolve names state.place (Bytes.toText (if isPhysical asked then path else plain)) with
  | .ok (place, .directory) =>
      let here := if isPhysical asked then bytes place.toText else plain
      assignExported "OLDPWD".toList state.here
      modify fun state => { state with place, here }
      assignExported "PWD".toList here
      modify fun state => { state with found := state.found.map ({ · with stale := true }) }
      if isTold || goesBack then put (here ++ ['\n']) else return 0
  | _ => refuse "can't cd to " (if target.isEmpty then ['.'] else target)
where
  /-- Give a variable a value that programs get as well. -/
  assignExported (name value : Bytes) : Action Unit := do
    assign name value
    if let some content ← variableOf? name then putVariable name { content with exported := true }

/-- Tell the directory, by the name it was reached by unless the directory itself is asked for. -/
def pwd : Builtin := fun _ arguments => do
  let (asked, _) ← options ['L', 'P'] [] arguments
  let state ← get
  put ((if isPhysical asked then bytes state.place.toText else state.here) ++ ['\n'])

/-- The marks of a permission, read, write and execute, from its bits. -/
def permissions (allowed : Nat) : Bytes :=
  [(4, 'r'), (2, 'w'), (1, 'x')].filterMap fun (bit, mark) =>
    if allowed &&& bit = 0 then none else some mark

/-- A change of permissions that is written in letters. -/
structure PermissionClause where
  /-- A bit for everyone who is meant. -/
  owners : Nat
  operator : Char
  /-- The bits that are set, taken away or given. -/
  bits : Nat
  deriving DecidableEq, Repr

/-- The bit of each letter of an owner. -/
def ownerBits : List (Char × Nat) := [('a', 0o111), ('u', 0o100), ('g', 0o010), ('o', 0o001)]

/-- Everyone. -/
def everyone : Nat := 0o111

/-- The bits that a letter of a permission stands for, given the permissions before. -/
def permissionBits (before : Nat) (letter : Char) : Option Nat :=
  match letter with
  | 'r' => some 4
  | 'w' => some 2
  | 'x' => some 1
  | 'u' => some (before >>> 6)
  | 'g' => some (before >>> 3)
  | 'o' => some before
  | 'X' => some (if before &&& everyone = 0 then 0 else 1)
  | 's' => some 0
  | _ => none

/-- Permissions after a change. -/
def PermissionClause.apply (clause : PermissionClause) (after : Nat) : Nat :=
  let bits := (clause.bits &&& 7) * clause.owners
  match clause.operator with
  | '-' => after &&& (0o777 - (bits &&& 0o777))
  | '=' => bits ||| (after &&& (0o777 - 7 * clause.owners))
  | _ => after ||| bits

/-- Permissions after the changes that a text asks for, at most `steps` of them; `owners` are those that
are meant when the text names nobody. -/
def changePermissions (before : Nat) : Nat → Nat → Nat → Bytes → Option Nat
  | 0, _, _, _ => none
  | steps + 1, owners, after, text =>
      if text.isEmpty then some after
      else
        let letters := text.takeWhile fun letter => (ownerBits.lookup letter).isSome
        let owners := letters.foldl (fun owners letter => owners ||| (ownerBits.lookup letter).getD 0) owners
        let owners := if owners = 0 then everyone else owners
        match text.drop letters.length with
        | [] => some after
        | operator :: rest =>
            if ['=', '+', '-'].all (· != operator) then none
            else
              let marks := rest.takeWhile fun letter => (permissionBits before letter).isSome
              let bits := marks.foldl
                (fun bits letter => bits ||| (permissionBits before letter).getD 0) 0
              let after := (PermissionClause.mk owners operator bits).apply after
              match rest.drop marks.length with
              | ',' :: rest => changePermissions before steps 0 after rest
              | [] => some after
              | next :: rest =>
                  if ['=', '+', '-'].contains next then
                    changePermissions before steps owners after (next :: rest)
                  else none

/-- Set or tell the permissions that new documents do not get. -/
def umask : Builtin := fun _ arguments => do
  let (asked, arguments) ← options ['S'] [] arguments
  let mask := (← get).mask
  let allowed := 0o777 - mask
  match arguments with
  | [] =>
      if asked.isEmpty then
        let digit (weight : Nat) : Bytes := Bytes.ofNat (mask / weight % 8)
        put (digit 512 ++ digit 64 ++ digit 8 ++ digit 1 ++ ['\n'])
      else
        put (bytes "u=" ++ permissions (allowed >>> 6) ++ bytes ",g=" ++ permissions (allowed >>> 3) ++
          bytes ",o=" ++ permissions allowed ++ ['\n'])
  | text :: _ =>
      if text.head?.any Char.isDigit then
        if text.all fun digit => (Escape.digit? 8 digit).isSome then
          let mask := text.foldl (fun mask digit => 8 * mask + (digit.toNat - '0'.toNat)) 0
          modify fun state => { state with mask := mask % 0o1000 }
          return 0
        else refuse "Illegal number: " text
      else match changePermissions allowed (text.length + 1) 0 allowed text with
        | some allowed =>
            modify fun state => { state with mask := 0o777 - allowed }
            return 0
        | none => refuse "Illegal mode: " text

end CommandShell.Host.Script.Builtin
