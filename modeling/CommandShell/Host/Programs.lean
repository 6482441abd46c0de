import CommandShell.Host.Format
import CommandShell.Host.Tool

/-!
The common programs of the host: writing words, writing in a format, copying documents, waiting, and
testing conditions.
-/

namespace CommandShell.Host.Programs

/-- An option word of `echo`: a dash and letters, all of them known. -/
def isEchoOption (word : Bytes) : Bool :=
  match word with
  | '-' :: letters => !letters.isEmpty && letters.all (['n', 'e', 'E'].contains ·)
  | _ => false

/-- Write words with single spaces between them, and end the line unless an option says not to. -/
def echo : Tool := fun arguments surface =>
  let options := (arguments.takeWhile isEchoOption).flatten
  let text := Bytes.join [' '] (arguments.dropWhile isEchoOption)
  let resolves := (options.filter fun letter => letter == 'e' || letter == 'E').getLast? == some 'e'
  let ending := if options.contains 'n' then [] else ['\n']
  if resolves then
    let resolved := Escape.resolve .echo text
    surface.writing (.writes (resolved.text ++ if resolved.stopped then [] else ending))
  else surface.writing (.writes (text ++ ending))

/-- Write arguments in a format. -/
def printf : Tool := fun arguments surface =>
  match if arguments.head? = some ['-', '-'] then arguments.tail else arguments with
  | [] => surface.misused (surface.message (Bytes.ofString "missing operand"))
  | format :: arguments => surface.writing (Format.run .program surface.title format arguments)

/-- How a copy shows the lines of a document. -/
structure Display where
  numbers : Bool
  numbersFull : Bool
  squeezes : Bool
  marksEnds : Bool
  marksTabs : Bool
  marksOthers : Bool
  deriving DecidableEq, Repr

/-- The display that letters ask for. -/
def Display.ofLetters (letters : List Char) : Display :=
  let any (wanted : List Char) : Bool := letters.any wanted.contains
  ⟨any ['n'] && !any ['b'], any ['b'], any ['s'], any ['A', 'E', 'e'], any ['A', 'T', 't'],
    any ['A', 'e', 't', 'v']⟩

/-- A code below 128 in characters that can be seen. -/
def marked (code : Nat) : Bytes :=
  if code < 0x20 then ['^', Bytes.byte (code + 0x40)]
  else if code = 0x7F then ['^', '?']
  else [Bytes.byte code]

/-- A byte as a copy shows it. -/
def Display.show (display : Display) (char : Char) : Bytes :=
  if char = '\n' then (if display.marksEnds then ['$', '\n'] else ['\n'])
  else if char = '\t' then (if display.marksTabs then ['^', 'I'] else ['\t'])
  else if !display.marksOthers then [char]
  else if 0x80 ≤ char.toNat then ['M', '-'] ++ marked (char.toNat - 0x80)
  else marked char.toNat

/-- A number in front of a line. -/
def numbered (number : Nat) : Bytes :=
  let digits := Bytes.ofNat number
  List.replicate (6 - digits.length) ' ' ++ digits ++ ['\t']

/-- A line as a copy shows it. Where ends are marked, the end of a line in two bytes is marked as well. -/
def Display.line (display : Display) : Bytes → Bytes
  | ['\r', '\n'] => if display.marksEnds then ['^', 'M', '$', '\n'] else ['\r', '\n'].flatMap display.show
  | [] => []
  | char :: rest => display.show char ++ display.line rest

/-- The lines of a text as a copy shows them, after a number of lines and maybe an empty one. -/
def Display.lines (display : Display) (number : Nat) (afterEmpty : Bool) : List Bytes → Bytes
  | [] => []
  | line :: rest =>
      let isEmpty := line = ['\n']
      if display.squeezes && isEmpty && afterEmpty then Display.lines display number true rest
      else
        let counts := display.numbers || (display.numbersFull && !isEmpty)
        (if counts then numbered (number + 1) else []) ++ display.line line ++
          Display.lines display (if counts then number + 1 else number) isEmpty rest

/-- The parts that a copy of documents has, after a text that was copied before. -/
def copied (display : Display) (before : Bytes) : List Tool.Found → List Part
  | [] => []
  | .error complaint :: rest => .complaint complaint :: copied display before rest
  | .ok text :: rest =>
      let shown (text : Bytes) : Bytes := display.lines 0 false (Tool.lines text)
      let after := before ++ text
      .output ((shown after).drop (shown before).length) :: copied display after rest

/-- The options of `cat`. -/
def catOptions : Tool.Options where
  letters := ['A', 'b', 'e', 'E', 'n', 's', 't', 'T', 'u', 'v']
  names := [
    ("number-nonblank", 'b'), ("number", 'n'), ("squeeze-blank", 's'), ("show-nonprinting", 'v'),
    ("show-ends", 'E'), ("show-tabs", 'T'), ("show-all", 'A')]

/-- Copy documents to the output, if there is one. -/
def cat : Tool := fun arguments surface =>
  match catOptions.read arguments with
  | .error refusal => surface.misused (surface.message refusal.text)
  | .ok (letters, operands) =>
      if surface.outlet = .closed then surface.complains "standard output: Bad file descriptor" 1
      else
        let found := Tool.documents operands surface
        let parts := copied (Display.ofLetters letters) [] found
        surface.writing ⟨parts, if found.all (·.isOk) then 0 else 1⟩

/-- A length of time: a number that is not below zero, and maybe a unit. -/
def isDuration (text : Bytes) : Bool :=
  let reading := Numeral.fraction text
  let isUnit := match reading.rest with
    | [] => true
    | [unit] => ['s', 'm', 'h', 'd'].contains unit
    | _ => false
  reading.found && isUnit && reading.value != .undefined &&
    (!reading.negative || reading.value == .ratio 0 1)

/-- Wait as long as the arguments say together. -/
def sleep : Tool := fun arguments surface =>
  match (Tool.Options.mk [] []).read arguments with
  | .error refusal => surface.misused (surface.message refusal.text)
  | .ok (_, operands) =>
      let wrong := operands.filter (!isDuration ·)
      if arguments.isEmpty then surface.misused (surface.message (Bytes.ofString "missing operand"))
      else if wrong.isEmpty then .silent 0
      else surface.misused <| wrong.flatMap fun operand =>
        surface.message (Bytes.ofString "invalid time interval " ++ Quoting.quoted operand)

/-- The status that tells whether a condition holds, or that it is no condition. -/
def conditionRun (surface : Surface) : Except String Bool → Run
  | .ok true => .silent 0
  | .ok false => .silent 1
  | .error message => surface.complains message 2

/-- Test a condition. -/
def test : Tool := fun arguments surface =>
  conditionRun surface (Condition.Program.holds surface.view arguments)

/-- Test a condition in square brackets. -/
def bracket : Tool := fun arguments surface =>
  if arguments.getLast? = some [']'] then
    conditionRun surface (Condition.Program.holds surface.view arguments.dropLast)
  else conditionRun surface (.error ("missing " ++ Condition.quoted [']']))

/-- Whether a program reads its input. -/
def readsInput (name : String) (arguments : List Bytes) : Bool :=
  name == "cat" && match catOptions.read arguments with
    | .ok (_, operands) => operands.isEmpty || operands.contains ['-']
    | .error _ => false

/-- The nanoseconds of a unit of time. -/
def unitLength (unit : Bytes) : Nat :=
  let seconds := match unit with
    | ['m'] => 60
    | ['h'] => 60 * 60
    | ['d'] => 24 * 60 * 60
    | _ => 1
  seconds * Nat.pow 10 9

/-- The nanoseconds that a program takes until it ends. One that waits for ever has none. -/
def duration? (name : String) (arguments : List Bytes) : Option Nat :=
  if name == "sleep" && arguments.all isDuration then
    arguments.foldl (fun total? argument => do
      let reading := Numeral.fraction argument
      match reading.value with
      | .ratio numerator denominator =>
          return (← total?) + numerator * unitLength reading.rest / denominator
      | _ => none) (some 0)
  else some 0

/-- The programs by name. -/
def table : List (String × Tool) := [
  ("[", bracket),
  ("cat", cat),
  ("echo", echo),
  ("false", fun _ _ => .silent 1),
  ("printf", printf),
  ("sleep", sleep),
  ("test", test),
  ("true", fun _ _ => .silent 0)]

end CommandShell.Host.Programs
