import CommandShell.Host.Script.Arithmetic
import CommandShell.Host.Script.Children
import CommandShell.Host.Script.Pattern

/-!
From the words of a script to the words a command is given: parameters, commands and arithmetic are
replaced by their values, and what was not quoted is split into fields.
-/

namespace CommandShell.Host.Script

open Script.Action

/-- A piece of an expanded word. -/
inductive Glyph where
  /-- A byte; `splits` marks those that can separate fields. -/
  | byte (char : Char) (quoted splits : Bool)
  /-- The start of a text that a value gives. In one that is whole only boundaries separate fields. -/
  | value (whole : Bool)
  /-- The end of one parameter of several. -/
  | boundary
  /-- Quotes, which make a field even without bytes. -/
  | anchor
  deriving DecidableEq, Repr

/-- The bytes of a text as glyphs. -/
def glyphs (quoted splits : Bool) (text : Bytes) : List Glyph :=
  (if quoted then [Glyph.anchor] else if splits then [.value false] else []) ++
    text.map (Glyph.byte · quoted splits)

/-- The bytes of glyphs, with a text where parameters meet. -/
def Glyph.toBytes (joiner : Bytes) (glyphs : List Glyph) : Bytes :=
  glyphs.flatMap fun glyph => match glyph with
    | .byte char _ _ => [char]
    | .boundary => joiner
    | _ => []

/-- Glyphs as a pattern, with a text where parameters meet. In text that is not quoted a backslash quotes the
next byte. -/
def Glyph.toPattern (joiner : Bytes) (glyphs : List Glyph) : Pattern :=
  Pattern.ofWritten <| glyphs.flatMap fun glyph => match glyph with
    | .byte char quoted _ => if quoted then ['\\', char] else [char]
    | .boundary => joiner.flatMap fun char => ['\\', char]
    | _ => []

/-- The bytes that separate fields. -/
def separators : Action Bytes := do
  return (← valueOf? "IFS".toList).getD [' ', '\t', '\n']

/-- What stands between parameters that make one text: the first byte that separates fields. -/
def joiner : Action Bytes := do
  return match ← valueOf? "IFS".toList with
    | none => [' ']
    | some separators => separators.take 1

/-- Fields while they are split off. -/
structure Fields where
  finished : List (List Glyph)
  open_ : List Glyph
  /-- A blank has just ended a field, and a separator that follows belongs to it. -/
  afterBlank : Bool
  /-- The value that is being split is whole, and whether the one before it was. -/
  whole : Bool
  afterWhole : Bool

/-- Take one glyph of a value, which may separate fields, and may be blank. -/
def Fields.split (fields : Fields) (separates blank : Bool) (glyph : Glyph) : Fields :=
  if !separates then { fields with open_ := fields.open_ ++ [glyph], afterBlank := false }
  else if fields.afterBlank then { fields with afterBlank := blank }
  else
    let afterBlank := blank && !fields.whole && !fields.afterWhole
    if fields.open_.isEmpty && afterBlank then fields
    else { fields with finished := fields.finished ++ [fields.open_], open_ := [], afterBlank }

/-- Take one glyph into the fields. A boundary separates like a blank. -/
def Fields.take (separators : Bytes) (fields : Fields) (glyph : Glyph) : Fields :=
  match glyph with
  | .value whole => { fields with afterBlank := false, whole, afterWhole := fields.whole }
  | .boundary => fields.split true true glyph
  | .byte char quoted splits =>
      if splits && !quoted then
        fields.split (separators.contains char) ([' ', '\t', '\n'].contains char) glyph
      else { fields with open_ := fields.open_ ++ [glyph] }
  | .anchor => { fields with open_ := fields.open_ ++ [glyph] }

/-- The fields of an expanded word. Nothing at the end of a word is a field only in a whole value. -/
def splitFields (separators : Bytes) (glyphs : List Glyph) : List (List Glyph) :=
  let fields := glyphs.foldl (Fields.take separators) ⟨[], [], false, false, false⟩
  if fields.whole || !fields.open_.isEmpty then fields.finished ++ [fields.open_] else fields.finished

/-- All parameters, each from the next one apart. -/
def allParameters (quoted : Bool) (parameters : List Bytes) : List Glyph :=
  let bytes (parameter : Bytes) : List Glyph := parameter.map (Glyph.byte · quoted (!quoted))
  .value quoted :: match parameters with
    | [] => []
    | first :: rest => bytes first ++ rest.flatMap fun next => Glyph.boundary :: bytes next

/-- The value of a parameter that is one text. -/
def parameterValue? (name : Bytes) : Action (Option Bytes) := do
  let state ← get
  if !name.isEmpty && name.all Char.isDigit then
    match String.toNat? (String.ofList name) with
    | some 0 => return some state.name
    | some number => return state.parameters[number - 1]?
    | none => return none
  else match name with
    | ['#'] => return some (Bytes.ofNat state.parameters.length)
    | ['?'] => return some (Bytes.ofNat state.status)
    | ['$'] => return some (Bytes.ofNat state.shell)
    | ['-'] => return some (Switch.letters state.switches)
    | ['!'] => return some ((state.background?.map Bytes.ofNat).getD [])
    | _ => valueOf? name

/-- The number that a variable holds; without a value it is zero. -/
def variableNumber (bindings : List (Bytes × Variable)) (name : Bytes) : Except Bytes Int :=
  let text := ((bindings.lookup name).bind (·.value?)).getD []
  let reading := Numeral.integer none text
  if text.all Numeral.isBlank then .ok 0
  else if reading.found && reading.rest.all Numeral.isBlank then .ok (Numeral.signed reading).1
  else .error text

/-- The value of an expression; its assignments are made. -/
def compute (text : Bytes) : Action Int := do
  match Arithmetic.evaluate (variableNumber (← get).bindings) text with
  | .ok (value, assignments) =>
      assignments.reverse.forM fun (name, value) => assign name (Bytes.ofInt value)
      return value
  | .error (.noNumber text) => fail (Bytes.ofString "Illegal number: " ++ text)
  | .error .noQuotient => throw (.dies Signal.arithmetic)
  | .error .divisionByZero =>
      fail (Bytes.ofString "arithmetic expression: division by zero: \"" ++ text ++ ['"'])
  | .error (.expected what) =>
      fail (Bytes.ofString ("arithmetic expression: expecting " ++ what ++ ": \"") ++ text ++ ['"'])

/-- The value of a parameter in glyphs, when it is there, and whether it is empty. -/
def parameterGlyphs? (quoted : Bool) (name : Bytes) : Action (Option (List Glyph × Bool)) := do
  let parameters := (← get).parameters
  if name = ['@'] ∨ (name = ['*'] ∧ !quoted) then
    if parameters.isEmpty then return none
    else return some (allParameters quoted parameters, parameters.all List.isEmpty)
  else if name = ['*'] then
    if parameters.isEmpty then return none
    else
      let text := Bytes.join (← joiner) parameters
      return some (glyphs true false text, text.isEmpty)
  else match ← parameterValue? name with
    | none => return none
    | some text => return some (glyphs quoted (!quoted) text, text.isEmpty)

/-- The output of a command that becomes a part of a word loses its last line ends. -/
def withoutLineEnds (output : Bytes) : Bytes :=
  ((output.filter (· != '\x00')).reverse.dropWhile (· == '\n')).reverse

/-- The homes of the users every host has. -/
def homes : List (String × String) := [
  ("root", "/root"), ("daemon", "/usr/sbin"), ("bin", "/bin"), ("sys", "/dev"), ("sync", "/bin"),
  ("games", "/usr/games"), ("man", "/var/cache/man"), ("lp", "/var/spool/lpd"), ("mail", "/var/mail"),
  ("news", "/var/spool/news"), ("uucp", "/var/spool/uucp"), ("proxy", "/bin"), ("www-data", "/var/www"),
  ("backup", "/var/backups"), ("list", "/var/list"), ("nobody", "/nonexistent")]

/-- The home of a user, or of the user of the shell for an empty name. -/
def home? (user : Bytes) : Action (Option Bytes) := do
  if user.isEmpty then valueOf? "HOME".toList
  else return (homes.lookup (Bytes.toText user)).map Bytes.ofString

/-- The parts of a text in which a tilde at the start stands for the home of the user named after it, when
that is known. In the value of a variable the same holds after each colon. A name that other parts of the
word follow directly is not complete. -/
def homesIn (assigns isLast : Bool) : Nat → Bool → Bytes → Action Word
  | 0, _, text => return [.text false text]
  | steps + 1, atStart, text => do
      let ends (char : Char) : Bool := assigns && char == ':'
      match atStart, text with
      | true, '~' :: after =>
          let user := after.takeWhile fun char => char != '/' && !ends char
          let rest := after.drop user.length
          let home? ← if rest.isEmpty && !isLast then pure none else home? user
          match home? with
          | some home =>
              let others ← homesIn assigns isLast steps false rest
              return if home.isEmpty then others else .text true home :: others
          | none =>
              let others ← homesIn assigns isLast steps false after
              return .text false ['~'] :: others
      | _, text =>
          let plain := text.takeWhile (!ends ·)
          match text.drop plain.length with
          | [] => return [.text false text]
          | colon :: rest =>
              let others ← homesIn assigns isLast steps true rest
              return .text false (plain ++ [colon]) :: others

/-- The parts of a word with homes in place of tildes. -/
def expandHomes (assigns atStart : Bool) : Word → Action Word
  | [] => return []
  | .text false text :: others => do
      let parts ← homesIn assigns others.isEmpty (2 * text.length + 2) atStart text
      return parts ++ (← expandHomes assigns false others)
  | part :: others => return part :: (← expandHomes assigns false others)

/-- The glyphs of the parts of a word, at most `steps` words deep. Inside an operation of a
parameter unquoted text can be split, and a tilde stands for a home. -/
def expand (engine : Engine) (steps : Nat) (splits : Bool) (parts : Word) : Action (List Glyph) :=
  match steps with
  | 0 => return []
  | steps + 1 => do
      let parts ← if splits then expandHomes false true parts else pure parts
      let expanded ← parts.mapM (expandPart engine (expand engine steps))
      return expanded.flatten
where
  /-- The glyphs of one part. -/
  expandPart (engine : Engine) (inner : Bool → Word → Action (List Glyph)) :
      Part → Action (List Glyph)
    | .text quoted text =>
        return if text.isEmpty && !quoted then [] else glyphs quoted (!quoted && splits) text
    | .command quoted body => do
        let (output, status) ← capture engine (runBody engine body)
        modify fun state => { state with substituted? := some status }
        return glyphs quoted (!quoted) (withoutLineEnds output)
    | .arithmetic quoted expression => do
        let value ← compute (Glyph.toBytes (← joiner) (← inner false expression))
        return glyphs quoted (!quoted) (Bytes.ofInt value)
    | .parameter quoted name operation ifEmpty word => do
        let found? ← parameterGlyphs? quoted name
        let present? := found?.filter fun found => !(ifEmpty && found.2)
        let quotes : List Glyph :=
          if quoted && (name != ['@'] || operation != .value) then [.anchor] else []
        let value := (found?.map (·.1)).getD quotes
        match operation with
        | .unknown => fail (Bytes.ofString "Bad substitution")
        | .value =>
            if found?.isNone then checkSet name
            return value
        | .length =>
            if found?.isNone then checkSet name
            return glyphs quoted (!quoted) (Bytes.ofNat (Glyph.toBytes (← joiner) value).length)
        | .orElse =>
            match present? with
            | some found => return found.1
            | none => return quotes ++ (← inner true word)
        | .alternative =>
            match present? with
            | some _ => return quotes ++ (← inner true word)
            | none => return quotes
        | .orAssign =>
            match present? with
            | some found => return found.1
            | none =>
                let text := Glyph.toBytes (← joiner) (← inner true word)
                if isName name then assign name text
                else fail (name ++ Bytes.ofString ": bad variable name")
                return glyphs quoted (!quoted) text
        | .orComplain =>
            match present? with
            | some found => return found.1
            | none =>
                let text := Glyph.toBytes (← joiner) (← inner true word)
                fail (name ++ [':', ' '] ++
                  if !text.isEmpty then text
                  else if ifEmpty then Bytes.ofString "parameter not set or null"
                  else Bytes.ofString "parameter not set")
        | .withoutEnd longest =>
            if found?.isNone then checkSet name
            trimmed quoted value (← inner true word) (Pattern.withoutEnd longest)
        | .withoutStart longest =>
            if found?.isNone then checkSet name
            trimmed quoted value (← inner true word) (Pattern.withoutStart longest)
  /-- A missing parameter is a fault when the script asks for that. -/
  checkSet (name : Bytes) : Action Unit := do
    if (← hasOption .nounset) && name != ['@'] && name != ['*'] then
      fail (name ++ Bytes.ofString ": parameter not set")
  /-- A value without an end or a start that a pattern stands for. -/
  trimmed (quoted : Bool) (value word : List Glyph) (cut : Pattern → Bytes → Bytes) :
      Action (List Glyph) := do
    let joiner ← joiner
    return glyphs quoted (!quoted) (cut (Glyph.toPattern joiner word) (Glyph.toBytes joiner value))
  /-- Run the commands whose output is wanted. -/
  runBody (engine : Engine) (body : Option Node) : Action Unit := do
    match body with
    | none => finish 0
    | some node => engine.node .whole node

/-- Words are at most this deep inside each other. -/
def wordDepth : Nat := 100

/-- The glyphs of a word. -/
def expandWord (engine : Engine) (word : Word) : Action (List Glyph) := do
  expand engine wordDepth false (← expandHomes false true word)

/-- The fields of a word, each as the pattern of paths that it is. -/
def expandGlyphs (engine : Engine) (word : Word) : Action (List (List Glyph)) := do
  return splitFields (← separators) (← expandWord engine word)

/-- A word as one text. -/
def expandText (engine : Engine) (word : Word) : Action Bytes := do
  return Glyph.toBytes (← joiner) (← expandWord engine word)

/-- The value that a word gives to a variable. -/
def expandValue (engine : Engine) (word : Word) : Action Bytes := do
  return Glyph.toBytes (← joiner) (← expand engine wordDepth false (← expandHomes true true word))

/-- A word as a pattern. -/
def expandPattern (engine : Engine) (word : Word) : Action Pattern := do
  return Glyph.toPattern (← joiner) (← expandWord engine word)

end CommandShell.Host.Script
