import CommandShell.Host.Script.Channel

/-!
Patterns of paths. Each step of a path can be a pattern, which stands for the names in a directory that
fit it. A pattern that no path fits stands for itself.
-/

namespace CommandShell.Host.Script

open Script.Action

namespace Pattern

/-- Whether brackets that were opened are closed after at least one byte. -/
def closes : Pattern → Bool
  | [] => false
  | _ :: rest => (rest.head?.any fun next => special next ']') || closes rest

/-- Whether a step of a path stands for other names than itself. -/
def isOpen : Pattern → Bool
  | [] => false
  | byte :: rest =>
      special byte '*' || special byte '?' ||
        (special byte '[' && closes (if rest.head?.any (special · '!') then rest.drop 1 else rest)) ||
        isOpen rest

/-- The steps of a path. -/
def steps : Pattern → List Pattern
  | [] => [[]]
  | byte :: rest =>
      if byte.char = '/' then [] :: steps rest
      else match steps rest with
        | [] => [[byte]]
        | step :: others => (byte :: step) :: others

/-- Whether a name fits a step. A point at its start must be written. -/
def fitsName (step : Pattern) (name : Bytes) : Bool :=
  (name.head? != some '.' || step.head?.any (·.char == '.')) && matchesText step name

/-- The paths that steps stand for, after the path `before`, given the names in a directory and whether
there is something at a path. Only what comes after a pattern has to be there. -/
def paths (names : Bytes → List Bytes) (isThere : Bytes → Bool) (started : Bool) (before : Bytes) :
    List Pattern → List Bytes
  | [] => []
  | step :: rest =>
      if isOpen step then
        ((names before).filter (fitsName step)).flatMap fun name =>
          if rest.isEmpty then [before ++ name]
          else paths names isThere true (before ++ name ++ ['/']) rest
      else
        let path := before ++ step.map (·.char)
        if !rest.isEmpty then paths names isThere started (path ++ ['/']) rest
        else if started && isThere path then [path]
        else []

end Pattern

/-- The names in a directory of a script. -/
def namesAt (names : Names) (state : State) (path : Bytes) : List Bytes :=
  match resolve names state.place (Bytes.toText (if path.isEmpty then ['.'] else path)) with
  | .ok (place, .directory) =>
      let written := state.shared.written.filterMap fun (path, _) =>
        let other := Place.ofText (Bytes.toText path)
        if other.dropLast = place then other.getLast? else none
      ([".", ".."] ++ namesIn names place ++ written).eraseDups.map Bytes.ofString
  | _ => []

/-- The paths that a field stands for, in order, or the field itself. -/
def expandPaths (names : Names) (state : State) (joiner : Bytes) (field : List Glyph) : List Bytes :=
  let isThere (path : Bytes) : Bool := (find names state path).isOk
  let found := Pattern.paths (namesAt names state) isThere false []
    (Pattern.steps (Glyph.toPattern joiner field))
  if found.isEmpty then [Glyph.toBytes joiner field]
  else found.mergeSort Bytes.precedes

/-- The fields of a word, with paths in place of their patterns unless an option keeps them. -/
def expandFields (names : Names) (engine : Engine) (word : Word) : Action (List Bytes) := do
  let fields ← expandGlyphs engine word
  let joiner ← joiner
  if ← hasOption .noglob then return fields.map (Glyph.toBytes joiner)
  let state ← get
  return fields.flatMap (expandPaths names state joiner)

/-- The parts of a text between colons. -/
def colonParts (text : Bytes) : List Bytes :=
  text.foldr
    (fun char parts => if char = ':' then [] :: parts else match parts with
      | [] => [[char]]
      | part :: others => (char :: part) :: others)
    [[]]

/-- The paths of a name in the directories where programs are looked for. -/
def searchPaths (state : State) (name : Bytes) : List Bytes :=
  let directories := colonParts (((state.bindings.lookup "PATH".toList).bind (·.value?)).getD [])
  directories.map fun directory => if directory.isEmpty then name else directory ++ '/' :: name

end CommandShell.Host.Script
