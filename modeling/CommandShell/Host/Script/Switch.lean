import CommandShell.Host.Bytes

/-!
The options of a shell: their letters and their names.
-/

namespace CommandShell.Host.Script

/-- What can be switched on in a shell. -/
inductive Switch where
  | errexit
  | noglob
  | ignoreeof
  | interactive
  | monitor
  | noexec
  | stdin
  | xtrace
  | verbose
  | vi
  | emacs
  | noclobber
  | allexport
  | notify
  | nounset
  | privileged
  | nolog
  | debug
  deriving DecidableEq, Repr

namespace Switch

/-- Every option with its name, and its letter if it has one, in the order in which they are told. -/
def all : List (Switch × String × Option Char) := [
  (errexit, "errexit", some 'e'), (noglob, "noglob", some 'f'), (ignoreeof, "ignoreeof", some 'I'),
  (interactive, "interactive", some 'i'), (monitor, "monitor", some 'm'), (noexec, "noexec", some 'n'),
  (stdin, "stdin", some 's'), (xtrace, "xtrace", some 'x'), (verbose, "verbose", some 'v'),
  (vi, "vi", some 'V'), (emacs, "emacs", some 'E'), (noclobber, "noclobber", some 'C'),
  (allexport, "allexport", some 'a'), (notify, "notify", some 'b'), (nounset, "nounset", some 'u'),
  (privileged, "privileged", some 'p'), (nolog, "nolog", none), (debug, "debug", none)]

/-- The option with a letter. -/
def ofLetter? (letter : Char) : Option Switch :=
  (all.find? fun (_, _, own?) => own? == some letter).map (·.1)

/-- The option with a name. -/
def ofName? (name : Bytes) : Option Switch :=
  (all.find? fun (_, own, _) => own.toList == name).map (·.1)

/-- Options with one of them on or off. -/
def set (on : Bool) (option : Switch) (switches : List Switch) : List Switch :=
  let others := switches.filter (· != option)
  if on then option :: others else others

/-- Options with the one of a letter on or off. Of the two ways to edit a line one excludes the other. -/
def setLetter? (on : Bool) (letter : Char) (switches : List Switch) : Option (List Switch) :=
  (ofLetter? letter).map fun option =>
    let after := set on option switches
    match on, option with
    | true, .vi => set false .emacs after
    | true, .emacs => set false .vi after
    | _, _ => after

/-- The letters of the options that are on. -/
def letters (switches : List Switch) : Bytes :=
  (all.filterMap fun (option, _, letter?) => if switches.contains option then letter? else none).reverse

/-- The table of all options. -/
def table (switches : List Switch) : Bytes :=
  Bytes.ofString "Current option settings\n" ++ all.flatMap fun (option, name, _) =>
    Bytes.ofString name ++ List.replicate (16 - name.length) ' ' ++
      Bytes.ofString (if switches.contains option then "on\n" else "off\n")

/-- The commands that set all options as they are. -/
def commands (switches : List Switch) : Bytes :=
  all.flatMap fun (option, name, _) =>
    Bytes.ofString ("set " ++ (if switches.contains option then "-o " else "+o ") ++ name ++ "\n")

end Switch

/-- Why arguments that set options are refused. -/
inductive Misuse where
  | unknownLetter (letter : Char)
  | unknownName (name : Bytes)
  deriving DecidableEq, Repr

/-- What is said of arguments that set options and are refused. -/
def Misuse.message : Misuse → Bytes
  | .unknownLetter letter => Bytes.ofString "Illegal option -" ++ [letter]
  | .unknownName name => Bytes.ofString "Illegal option -o " ++ name

/-- What arguments that set options lead to. -/
structure Settings where
  switches : List Switch
  /-- The options are asked for, as a table or as commands. -/
  shown : Bytes
  /-- A letter said that the script comes first. -/
  takesText : Bool
  /-- The arguments after the options, and whether a sign ended these. -/
  operands : List Bytes
  ended : Bool
  deriving DecidableEq, Repr

namespace Settings

/-- What is told when a letter asks for a name that does not come. Before a shell has started, all its options
count as on. -/
def listing (starts on : Bool) (switches : List Switch) : Bytes :=
  let told := if starts then Switch.all.map (·.1) else switches
  if on then Switch.table told else Switch.commands told

/-- Take the letters of one argument. A letter that asks for a name takes it from the arguments after it,
and those that start a shell are known there only. -/
def take (starts on : Bool) (settings : Settings) (rest : List Bytes) :
    Bytes → Except Misuse (Settings × List Bytes)
  | [] => .ok (settings, rest)
  | 'o' :: letters =>
      match rest with
      | [] =>
          let shown := settings.shown ++ listing starts on settings.switches
          take starts on { settings with shown } [] letters
      | name :: rest => match Switch.ofName? name with
        | some option =>
            take starts on { settings with switches := Switch.set on option settings.switches } rest letters
        | none => .error (.unknownName name)
  | letter :: letters =>
      if starts && letter == 'c' then take starts on { settings with takesText := true } rest letters
      else if starts && letter == 'l' then take starts on settings rest letters
      else match Switch.setLetter? on letter settings.switches with
        | some switches => take starts on { settings with switches } rest letters
        | none => .error (.unknownLetter letter)

/-- Read arguments that set options, at most `steps` of them. A single dash ends the options; in a script
it also ends the tracing of commands. -/
def read (starts : Bool) (settings : Settings) : Nat → List Bytes → Except Misuse Settings
  | steps + 1, argument :: rest =>
      match argument with
      | ['-'] =>
          let switches := if starts then settings.switches
            else Switch.set false .xtrace (Switch.set false .verbose settings.switches)
          .ok { settings with switches, operands := rest }
      | ['-', '-'] => .ok { settings with operands := rest, ended := true }
      | '-' :: letters => do
          let (settings, rest) ← take starts true settings rest letters
          read starts settings steps rest
      | '+' :: letters => do
          let (settings, rest) ← take starts false settings rest letters
          read starts settings steps rest
      | _ => .ok { settings with operands := argument :: rest }
  | _, arguments => .ok { settings with operands := arguments }

/-- Read arguments that set options, given those that are on. -/
def ofArguments (starts : Bool) (switches : List Switch) (arguments : List Bytes) :
    Except Misuse Settings :=
  read starts ⟨switches, [], false, [], false⟩ arguments.length arguments

end Settings

end CommandShell.Host.Script
