import CommandShell.Host.Numeral
import CommandShell.Host.Quoting
import CommandShell.Host.Run

/-!
Writing arguments in a format. A format is bytes, escapes and directives, each of which shows one
argument, and it is used again until no argument is left.
-/

namespace CommandShell.Host.Format

/-- Where a format is written: by a program, or inside a script. -/
inductive Setting where
  | program
  | script
  deriving DecidableEq, Repr

/-- The fractions that a setting can keep. -/
def Setting.precision : Setting → Numeral.Precision
  | .program => ⟨64, 16384, 16382, 16445⟩
  | .script => ⟨53, 1024, 1022, 1074⟩

/-- The greatest width and precision. -/
def amountLimit : Nat := Nat.pow 2 31 - 1

/-- The escapes that the formats of a setting know. -/
def Setting.formatDialect : Setting → Escape.Dialect
  | .program => .format
  | .script => .scriptFormat

/-- The escapes of an argument that is shown with its escapes. -/
def Setting.argumentDialect : Setting → Escape.Dialect
  | .program => .argument
  | .script => .scriptText

/-- A width or a precision: a number in the format, or an argument. -/
inductive Amount where
  | number (value : Nat)
  | argument
  deriving DecidableEq, Repr

/-- How one argument is shown. -/
structure Directive where
  flags : List Char
  width? : Option Amount
  precision? : Option Amount
  conversion : Char
  deriving DecidableEq, Repr

/-- A piece of a format. -/
inductive Piece where
  | bytes (text : Bytes)
  | directive (directive : Directive)
  | stop
  | fault (message : String)
  /-- A directive that is not understood. Its width and precision take their arguments all the same. -/
  | unknown (directive : Directive) (message : String)
  deriving DecidableEq, Repr

/-- The conversions of numbers and texts. -/
def conversions : List Char :=
  ['a', 'A', 'c', 'd', 'e', 'E', 'f', 'F', 'g', 'G', 'i', 'o', 's', 'u', 'x', 'X']

/-- The flags that may come before the conversions. -/
def allows (conversion flag : Char) : Bool :=
  if flag = '\'' ∨ flag = 'I' then conversion ∈ ['d', 'i', 'u', 'f', 'F', 'g', 'G']
  else if flag = '#' then conversion ∉ ['c', 'd', 'i', 's', 'u']
  else if flag = '0' then conversion ∉ ['c', 's']
  else true

/-- A number or an asterisk at the start of a text. -/
def amount (text : Bytes) : Option Amount × Bytes :=
  match text with
  | '*' :: rest => (some .argument, rest)
  | text =>
      match Escape.digits 10 text.length 0 0 text with
      | (0, _, _) => (none, text)
      | (_, value, rest) => (some (.number value), rest)

/-- The directive after a percent sign, and the rest. -/
def directive (setting : Setting) (text : Bytes) : Piece × Bytes :=
  let flagChars := match setting with
    | .program => ['-', '+', ' ', '#', '0', '\'', 'I']
    | .script => ['#', '-', '+', ' ', '0']
  let flags := text.takeWhile flagChars.contains
  let (width?, afterWidth) := amount (text.dropWhile flagChars.contains)
  let (precision?, afterPrecision) := match afterWidth with
    | '.' :: rest =>
        let (amount?, rest) := amount rest
        (some (amount?.getD (.number 0)), rest)
    | rest => (none, rest)
  let rest := match setting with
    | .program => afterPrecision.dropWhile ['l', 'L', 'h', 'j', 't', 'z'].contains
    | .script => afterPrecision
  let read (conversion : Char) : Directive := ⟨flags, width?, precision?, conversion⟩
  match setting, rest with
  | .program, conversion :: after =>
      let plain := flags.isEmpty && width?.isNone && precision?.isNone &&
        rest.length == text.length
      if plain && (conversion == 'b' || conversion == 'q') then (.directive (read conversion), after)
      else if conversions.contains conversion && flags.all (allows conversion) &&
          !(conversion == 'c' && precision?.isSome) then (.directive (read conversion), after)
      else
        let written := text.take (text.length - after.length)
        (.unknown (read conversion) ("%" ++ Bytes.toText written ++ ": invalid conversion specification"),
          after)
  | .program, [] =>
      (.unknown (read '%') ("%" ++ Bytes.toText text ++ ": invalid conversion specification"), [])
  | .script, [] => (.unknown (read '%') "missing format character", [])
  | .script, conversion :: after =>
      if conversion = 'b' ∨ conversions.contains conversion then (.directive (read conversion), after)
      else
        let written := text.take (text.length - after.length)
        (.unknown (read conversion) ("%" ++ Bytes.toText written ++ ": invalid directive"), after)

/-- The pieces of a format, at most `steps` of them. -/
def pieces (setting : Setting) (steps : Nat) (format : Bytes) : List Piece :=
  match steps, format with
  | 0, _ => []
  | _, [] => []
  | steps + 1, '%' :: '%' :: rest => .bytes ['%'] :: pieces setting steps rest
  | steps + 1, '%' :: rest =>
      let (piece, rest) := directive setting rest
      piece :: pieces setting steps rest
  | steps + 1, '\\' :: rest =>
      match Escape.read setting.formatDialect rest with
      | .bytes bytes rest => .bytes bytes :: pieces setting steps rest
      | .stop => [.stop]
      | .fault message => [.fault message]
  | steps + 1, char :: rest => .bytes [char] :: pieces setting steps rest

/-- What has been written so far, the last part first, whether something could not be written, the arguments
that are left, and why the writing is over. -/
structure State where
  parts : List Part
  failed : Bool
  lost : Bool
  arguments : List Bytes
  ending? : Option Int
  deriving DecidableEq, Repr

/-- The next argument, when there is one. -/
def State.next (state : State) : Option Bytes × State :=
  match state.arguments with
  | [] => (none, state)
  | argument :: rest => (some argument, { state with arguments := rest })

/-- Write bytes. -/
def State.write (state : State) (bytes : Bytes) : State :=
  { state with parts := match state.parts with
      | .output text :: before => .output (text ++ bytes) :: before
      | before => .output bytes :: before }

/-- Say something about an argument; the writing goes on. -/
def State.say (title : Bytes) (state : State) (message : Bytes) : State :=
  { state with parts := .complaint (title ++ [':', ' '] ++ message ++ ['\n']) :: state.parts }

/-- Complain about an argument; the writing goes on. -/
def State.complain (title : Bytes) (state : State) (message : Bytes) : State :=
  { state.say title message with failed := true }

/-- A text between the marks that messages of a setting use. -/
def named (setting : Setting) (text : Bytes) : Bytes :=
  match setting with
  | .program => Quoting.quoted text
  | .script => text

/-- What is wrong with an argument that is not wholly a number. A program minds first that a number is out of
range, a script that something follows it. -/
def fault? {Value : Type} (setting : Setting) (argument : Bytes) (reading : Numeral.Reading Value)
    (inRange : Bool) : Option String :=
  let outOfRange := if inRange then none else some ": Numerical result out of range"
  if !reading.found then
    if argument.isEmpty then none
    else match setting with
      | .program => some ": expected a numeric value"
      | .script => some ": expected numeric value"
  else if reading.rest.isEmpty then outOfRange
  else match setting with
    | .program => outOfRange.or (some ": value not completely converted")
    | .script => some ": not completely converted"

/-- A complaint about an argument that is not wholly a number. -/
def check {Value : Type} (setting : Setting) (title : Bytes) (state : State) (argument : Bytes)
    (reading : Numeral.Reading Value) (inRange : Bool) : State :=
  match fault? setting argument reading inRange with
  | some message => state.complain title (named setting argument ++ Bytes.ofString message)
  | none => state

/-- The code of the character after a quote, when an argument gives a number like that, and what follows the
character. A script only looks at a byte. -/
def characterCode? (setting : Setting) (argument : Bytes) : Option (Nat × Bytes) :=
  match setting, argument with
  | .script, quote :: rest =>
      if quote = '\'' ∨ quote = '"' then some ((rest.head?.map Char.toNat).getD 0, []) else none
  | .program, quote :: char :: rest =>
      if quote = '\'' ∨ quote = '"' then
        match Bytes.first? (char :: rest) with
        | some (char, size) => some (char.toNat, rest.drop (size - 1))
        | none => some (char.toNat, rest)
      else none
  | _, _ => none

/-- The next argument as a number, read by its digits or as the code of a character. Without one the number
is zero. -/
def takeNumber {Value : Type} (setting : Setting) (title : Bytes) (ofCode : Nat → Value)
    (ofDigits : Bytes → Value × (State → State)) (state : State) : Value × State :=
  match state.next with
  | (none, state) => (ofCode 0, state)
  | (some argument, state) =>
      match characterCode? setting argument with
      | some (code, rest) =>
          let message := Bytes.ofString "warning: " ++ rest ++
            Bytes.ofString ": character(s) following character constant have been ignored"
          (ofCode code, if rest.isEmpty then state else state.say title message)
      | none =>
          let (value, checked) := ofDigits argument
          (value, checked state)

/-- The next argument as an integer with a sign. -/
def takeSigned (setting : Setting) (title : Bytes) (state : State) : Int × State :=
  let ofDigits (argument : Bytes) : Int × (State → State) :=
    let reading := Numeral.integer none argument
    let (value, inRange) := Numeral.signed reading
    (value, fun state => check setting title state argument reading inRange)
  takeNumber setting title (fun code => (code : Int)) ofDigits state

/-- The next argument as an integer without a sign. -/
def takeUnsigned (setting : Setting) (title : Bytes) (state : State) : Nat × State :=
  let ofDigits (argument : Bytes) : Nat × (State → State) :=
    let reading := Numeral.integer none argument
    let (value, inRange) := Numeral.unsigned reading
    (value, fun state => check setting title state argument reading inRange)
  takeNumber setting title id ofDigits state

/-- The next argument as a fraction, true for one below zero. -/
def takeFraction (setting : Setting) (title : Bytes) (state : State) :
    Bool × Numeral.Magnitude × State :=
  let ofDigits (argument : Bytes) : (Bool × Numeral.Magnitude) × (State → State) :=
    let reading := Numeral.fraction argument
    let (value, inRange) := setting.precision.keep reading.value
    ((reading.negative, value), fun state => check setting title state argument reading inRange)
  let (value, state) := takeNumber setting title (fun code => (false, .ratio code 1)) ofDigits state
  (value.1, value.2, state)

/-- How wide a directive is, and whether it is flushed left. A width below zero flushes left. -/
structure Frame where
  flags : List Char
  width : Nat
  precision? : Option Nat

/-- The flag stands before the directive. -/
def Frame.has (frame : Frame) (flag : Char) : Bool := frame.flags.contains flag

/-- A text in its width, after a sign that zeros go behind. -/
def Frame.place (frame : Frame) (zeros : Bool) (sign text : Bytes) : Bytes :=
  let spare := frame.width - (sign.length + text.length)
  if frame.has '-' then sign ++ text ++ List.replicate spare ' '
  else if zeros && frame.has '0' then sign ++ List.replicate spare '0' ++ text
  else List.replicate spare ' ' ++ sign ++ text

/-- The sign of a number. -/
def Frame.sign (frame : Frame) (negative : Bool) : Bytes :=
  if negative then ['-'] else if frame.has '+' then ['+'] else if frame.has ' ' then [' '] else []

/-- Digits with zeros before them up to the precision. Without places a zero is not shown. -/
def Frame.digits (frame : Frame) (digits : Bytes) : Bytes :=
  match frame.precision? with
  | none => digits
  | some precision =>
      if precision = 0 ∧ digits = ['0'] then []
      else List.replicate (precision - digits.length) '0' ++ digits

/-- An integer with a sign in a frame. -/
def Frame.signed (frame : Frame) (value : Int) : Bytes :=
  frame.place frame.precision?.isNone (frame.sign (value < 0))
    (frame.digits (Bytes.ofNat value.natAbs))

/-- An integer without a sign in a frame. -/
def Frame.unsigned (frame : Frame) (conversion : Char) (value : Nat) : Bytes :=
  let zeros := frame.precision?.isNone
  if conversion = 'o' then
    let digits := frame.digits (Nat.toDigits 8 value)
    frame.place zeros [] (if frame.has '#' && digits.head? != some '0' then '0' :: digits else digits)
  else if conversion = 'x' ∨ conversion = 'X' then
    let digits := frame.digits (Nat.toDigits 16 value)
    let mark := if frame.has '#' && value != 0 then ['0', 'x'] else []
    let text := frame.place zeros mark digits
    if conversion = 'X' then Bytes.upper text else text
  else frame.place zeros [] (frame.digits (Bytes.ofNat value))

/-- A fraction in a frame. -/
def Frame.fraction (frame : Frame) (conversion : Char) (precision : Numeral.Precision) (negative : Bool)
    (value : Numeral.Magnitude) : Bytes :=
  let text := match value with
    | .infinite => frame.place false (frame.sign negative) ['i', 'n', 'f']
    | .undefined => frame.place false (frame.sign negative) ['n', 'a', 'n']
    | .ratio numerator denominator =>
        let places := frame.precision?.getD 6
        let keeps := frame.has '#'
        let sign := frame.sign negative
        match conversion.toLower with
        | 'a' => frame.place true (sign ++ ['0', 'x'])
            (Numeral.hexadecimal precision frame.precision? keeps numerator denominator)
        | 'f' => frame.place true sign (Numeral.fixed places keeps numerator denominator)
        | 'e' => frame.place true sign (Numeral.scientific places keeps numerator denominator)
        | _ => frame.place true sign (Numeral.general places keeps numerator denominator)
  if conversion.isUpper then Bytes.upper text else text

/-- A text in a frame, cut to the precision. -/
def Frame.text (frame : Frame) (text : Bytes) : Bytes :=
  frame.place false [] (match frame.precision? with
    | some precision => text.take precision
    | none => text)

/-- The next argument as a width or a precision. A script keeps its last 32 bits; a program refuses what
does not fit into them, and takes all that is less than `least` for minus one. -/
def takeAmount (setting : Setting) (title : Bytes) (kind : String) (least : Int) (state : State) :
    Int × State :=
  let (value, later) := takeSigned setting title state
  match setting with
  | .script => (Int.bmod value (Nat.pow 2 32), later)
  | .program =>
      if value < least then (-1, later)
      else if value.natAbs ≤ amountLimit then (value, later)
      else
        let message := Bytes.ofString ("invalid " ++ kind ++ ": ") ++
          named setting (state.arguments.headD [])
        (0, { later.complain title message with ending? := some 1 })

/-- The frame of a directive. A width or a precision may be the next argument. -/
def frame (setting : Setting) (title : Bytes) (directive : Directive) (state : State) :
    Frame × State :=
  let (width, state) : Int × State := match directive.width? with
    | none => (0, state)
    | some (.number value) => (value, state)
    | some .argument => takeAmount setting title "field width" (-Numeral.wordSize) state
  let (precision?, state) : Option Int × State := match directive.precision? with
    | none => (none, state)
    | some (.number value) => (some value, state)
    | some .argument =>
        let (value, state) := takeAmount setting title "precision" 0 state
        (some value, state)
  let flags := if width < 0 then '-' :: directive.flags else directive.flags
  let kept? := match precision? with
    | some value => if value < 0 then none else some value.toNat
    | none => none
  (⟨flags, width.natAbs, kept?⟩, state)

/-- End the writing at a format that is not understood. -/
def State.refuse (setting : Setting) (title : Bytes) (state : State) (message : String) : State :=
  let status : Int := match setting with
    | .program => 1
    | .script => 2
  { state.complain title (Bytes.ofString message) with ending? := some status }

/-- Write an argument in a frame. What is too wide to be written is lost: a script ends there, and a program
goes on. -/
def State.writeIn (setting : Setting) (title : Bytes) (frame : Frame) (state : State) (text : Unit → Bytes) :
    State :=
  if frame.width ≤ amountLimit ∧ frame.precision?.getD 0 ≤ amountLimit then state.write (text ())
  else match setting with
    | .program => { state with lost := true }
    | .script => state.refuse .script title "xvsnprintf failed"

/-- Write one piece of a format. -/
def writePiece (setting : Setting) (title : Bytes) (state : State) : Piece → State
  | .bytes text => state.write text
  | .stop => { state with ending? := some 0 }
  | .fault message => state.refuse setting title message
  | .unknown directive message =>
      let (_, state) := frame setting title directive state
      if state.ending?.isSome then state else state.refuse setting title message
  | .directive directive =>
      let (frame, state) := frame setting title directive state
      let conversion := directive.conversion
      if state.ending?.isSome then state
      else if conversion = 'd' ∨ conversion = 'i' then
        let (value, state) := takeSigned setting title state
        state.writeIn setting title frame fun _ => frame.signed value
      else if ['o', 'u', 'x', 'X'].contains conversion then
        let (value, state) := takeUnsigned setting title state
        state.writeIn setting title frame fun _ => frame.unsigned conversion value
      else if ['a', 'A', 'e', 'E', 'f', 'F', 'g', 'G'].contains conversion then
        let (negative, value, state) := takeFraction setting title state
        state.writeIn setting title frame fun _ =>
          frame.fraction conversion setting.precision negative value
      else
        let (argument?, state) := state.next
        let argument := argument?.getD []
        if conversion = 'c' then
          state.writeIn setting title frame fun _ =>
            { frame with precision? := none }.text [argument.headD '\x00']
        else if conversion = 's' then state.writeIn setting title frame fun _ => frame.text argument
        else if conversion = 'q' then
          if argument?.isNone then state else state.write (Quoting.scriptWord argument)
        else
          let resolved := Escape.resolve setting.argumentDialect argument
          let state := state.writeIn setting title frame fun _ => frame.text resolved.text
          match resolved.fault? with
          | some message => { state.complain title (Bytes.ofString message) with ending? := some 1 }
          | none =>
              if !resolved.stopped || state.ending?.isSome then state
              else match setting with
                | .program => { state with ending? := some 0 }
                | .script => { state with ending? := some (if state.failed then 1 else 0) }

/-- Write the pieces of a format once, until one ends the writing. -/
def writeOnce (setting : Setting) (title : Bytes) (state : State) : List Piece → State
  | [] => state
  | piece :: rest =>
      let state := writePiece setting title state piece
      if state.ending?.isSome then state else writeOnce setting title state rest

/-- Write a format again and again, at most `steps` times, as long as it uses arguments and some are
left. -/
def writeAll (setting : Setting) (title : Bytes) (format : List Piece) (steps : Nat)
    (state : State) : State :=
  match steps with
  | 0 => state
  | steps + 1 =>
      let later := writeOnce setting title state format
      if later.ending?.isSome || later.arguments.isEmpty ||
          later.arguments.length == state.arguments.length then later
      else writeAll setting title format steps later

/-- Write arguments in a format. A program warns of arguments that the format does not use, and says at the end
that something was lost. -/
def run (setting : Setting) (title format : Bytes) (arguments : List Bytes) : Run :=
  let state := writeAll setting title (pieces setting format.length format) (arguments.length + 1)
    ⟨[], false, false, arguments, none⟩
  let state := match setting, state.ending?, state.arguments with
    | .program, none, argument :: _ =>
        state.say title
          (Bytes.ofString "warning: ignoring excess arguments, starting with " ++ named setting argument)
    | _, _, _ => state
  let status := state.ending?.getD (if state.failed then 1 else 0)
  if state.lost then ⟨(state.say title (Bytes.ofString "write error")).parts.reverse, 1⟩
  else ⟨state.parts.reverse, status⟩

end CommandShell.Host.Format
