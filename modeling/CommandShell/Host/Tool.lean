import CommandShell.Host.Condition
import CommandShell.Host.Run

/-!
What a program of the host is given, how it reads its options, and how it complains.
-/

namespace CommandShell.Host

/-- Where the output of a program goes. -/
inductive Outlet where
  | taken
  /-- A device that takes nothing more. -/
  | full
  | closed
  deriving DecidableEq, Repr

/-- What surrounds a program: the name it was called by, its input if it has one, where its output goes, the
documents it can read, and the file system. -/
structure Surface where
  title : Bytes
  input? : Option Bytes
  outlet : Outlet
  /-- The text of a document, or why it cannot be read. -/
  read : Bytes → Except String Bytes
  view : Condition.View

/-- A program that needs nothing but its arguments and what surrounds it. -/
abbrev Tool := List Bytes → Surface → Run

namespace Surface

/-- A message under the name of the program. -/
def message (surface : Surface) (text : Bytes) : Bytes := surface.title ++ [':', ' '] ++ text ++ ['\n']

/-- A run that complains and fails. -/
def complains (surface : Surface) (text : String) (status : Int) : Run :=
  ⟨[.complaint (surface.message (Bytes.ofString text))], status⟩

/-- A run that complains of how the program is called. -/
def misused (surface : Surface) (complaints : Bytes) : Run :=
  ⟨[.complaint (complaints ++ Bytes.ofString "Try '" ++ surface.title ++
    Bytes.ofString " --help' for more information.\n")], 1⟩

/-- A run with its output as far as that is taken. -/
def writing (surface : Surface) (run : Run) : Run :=
  let refused (reason : String) : Run :=
    ⟨[.complaint (run.complaints ++ surface.message (Bytes.ofString ("write error: " ++ reason)))], 1⟩
  if run.output.isEmpty then run
  else match surface.outlet with
    | .taken => run
    | .full => refused "No space left on device"
    | .closed => refused "Bad file descriptor"

end Surface

namespace Tool

/-- The options of a program: their letters, and the letters that names stand for. -/
structure Options where
  letters : List Char
  names : List (String × Char)

/-- Why an option is refused. -/
inductive Refusal where
  | letter (letter : Char)
  | name (option : Bytes)
  | value (name : String)
  | ambiguous (option : Bytes) (names : List String)
  deriving DecidableEq, Repr

/-- What is said of an option that is refused. -/
def Refusal.text : Refusal → Bytes
  | .letter char => Bytes.ofString "invalid option -- '" ++ [char, '\'']
  | .name option => Bytes.ofString "unrecognized option '--" ++ option ++ ['\'']
  | .value known => Bytes.ofString ("option '--" ++ known ++ "' doesn't allow an argument")
  | .ambiguous option names => Bytes.ofString "option '--" ++ option ++
      Bytes.ofString "' is ambiguous; possibilities:" ++
      names.flatMap fun known => Bytes.ofString (" '--" ++ known ++ "'")

/-- The letter that a name stands for. Its start is enough when no other name starts like that. -/
def Options.letter (options : Options) (option : Bytes) : Except Refusal Char :=
  let name := option.takeWhile (· != '=')
  let known? : Option (String × Char) := options.names.find? fun named => named.1.toList == name
  match known?, options.names.filter fun named => name.isPrefixOf named.1.toList with
  | some known, _ => ofKnown known
  | none, [known] => ofKnown known
  | none, [] => .error (.name option)
  | none, several => .error (.ambiguous option (several.map (·.1)))
where
  /-- The letter of a known name, which takes no value. -/
  ofKnown (known : String × Char) : Except Refusal Char :=
    if option.contains '=' then .error (.value known.1) else .ok known.2

/-- Arguments with the letters of their options apart from the others. Two dashes end the options. -/
def Options.read (options : Options) : List Bytes → Except Refusal (List Char × List Bytes)
  | [] => .ok ([], [])
  | ['-', '-'] :: rest => .ok ([], rest)
  | ('-' :: '-' :: name) :: rest => do
      let letter ← options.letter name
      let (found, others) ← options.read rest
      return (letter :: found, others)
  | ('-' :: first :: more) :: rest => do
      if let some letter := (first :: more).find? (!options.letters.contains ·) then
        throw (.letter letter)
      let (found, others) ← options.read rest
      return (first :: more ++ found, others)
  | other :: rest => do
      let (found, others) ← options.read rest
      return (found, other :: others)

/-- The lines of a text, each with its line end; the last one may have none. -/
def lines : Bytes → List Bytes
  | [] => []
  | char :: rest =>
      if char = '\n' then ['\n'] :: lines rest
      else match lines rest with
        | [] => [[char]]
        | line :: others => (char :: line) :: others

/-- What reading a document gives: its text, or a complaint. -/
abbrev Found := Except Bytes Bytes

/-- The documents that operands name, in order; without operands, or for a dash, the input. -/
def documents (operands : List Bytes) (surface : Surface) : List Found :=
  let operands := if operands.isEmpty then [['-']] else operands
  let found (name : Bytes) : Except String Bytes :=
    if name != ['-'] then surface.read name
    else match surface.input? with
      | some text => .ok text
      | none => .error "Bad file descriptor"
  let read := operands.map fun name => (found name).mapError fun reason =>
    surface.message (Quoting.documentName name ++ Bytes.ofString (": " ++ reason))
  if operands.contains ['-'] && surface.input?.isNone then
    read ++ [.error (surface.message (Bytes.ofString "closing standard input: Bad file descriptor"))]
  else read

end Tool

end CommandShell.Host
