import CommandShell.Failure
import CommandShell.Text.Characters

/-!
The options of the command line. Each word is first told apart by its shape: an option, a value, or
the separator after which every word is a value. Then the words are read in order.
-/

namespace CommandShell

/-- The options. -/
inductive Flag where
  | help
  | version
  | command
  | executor
  | plain
  | verbose
  deriving DecidableEq, Repr

namespace Flag

/-- The ways to write an option. -/
def spellings : Flag → List String
  | .help => ["-h", "--help"]
  | .version => ["-V", "--version"]
  | .command => ["-c", "--command"]
  | .executor => ["--executor"]
  | .plain => ["--plain"]
  | .verbose => ["-v", "--verbose"]

/-- The name of an option in messages. -/
def name (flag : Flag) : String := "/".intercalate flag.spellings

/-- Some options have a value. -/
def takesValue : Flag → Bool
  | .command => true
  | .executor => true
  | _ => false

/-- Every option in the order in which the choices are listed. -/
def all : List Flag := [.help, .version, .command, .executor, .plain, .verbose]

/-- Every spelling with its option. -/
def spelled : List (String × Flag) :=
  all.flatMap fun flag => flag.spellings.map fun spelling => (spelling, flag)

/-- The option with a spelling. -/
def ofSpelling? (spelling : String) : Option Flag := spelled.lookup spelling

/-- The option written as a dash and one letter. -/
def ofLetter? (letter : Char) : Option Flag := ofSpelling? (String.ofList ['-', letter])

end Flag

/-- What can be wrong with a command line. -/
inductive Misuse where
  | ambiguous (word : String) (candidates : List String)
  | valueMissing (flag : Flag)
  | valueIgnored (flag : Flag) (value : String)
  | noChoice (argument value : String) (choices : List String)
  | unrecognized (words : List String)
  deriving DecidableEq, Repr

/-- The message about a misuse. -/
def Misuse.message : Misuse → String
  | .ambiguous word candidates =>
      "ambiguous option: " ++ word ++ " could match " ++ ", ".intercalate candidates
  | .valueMissing flag => "argument " ++ flag.name ++ ": expected one argument"
  | .valueIgnored flag value =>
      "argument " ++ flag.name ++ ": ignored explicit argument " ++ quoted value
  | .noChoice argument value choices =>
      "argument " ++ argument ++ ": invalid choice: " ++ quoted value ++ " (choose from " ++
        ", ".intercalate (choices.map quoted) ++ ")"
  | .unrecognized words => "unrecognized arguments: " ++ " ".intercalate words

/-- A word of the command line, told apart by its shape. -/
inductive Word where
  | value (text : String)
  | option (flag : Flag) (short : Bool) (attached? : Option String)
  | unknown (text : String)
  | separator
  deriving DecidableEq, Repr

namespace Word

/-- The text before the first equals sign, and the text after it when there is one. -/
def splitAtEquals (text : List Char) : List Char × Option (List Char) :=
  match text.dropWhile (· ≠ '=') with
  | [] => (text, none)
  | _ :: after => (text.takeWhile (· ≠ '='), some after)

/-- Decimal digits of any script, and nothing else. -/
def isDigits (text : List Char) : Bool := text.all fun char => (Text.digit? char).isSome

/-- A line feed at the end of a text does not count. -/
def withoutLastFeed (text : List Char) : List Char :=
  if text.getLast? = some '\n' then text.dropLast else text

/-- A dash and a decimal number, with digits after its point if it has one. -/
def isNegativeNumber : List Char → Bool
  | '-' :: rest =>
      let number := withoutLastFeed rest
      match number.dropWhile fun char => (Text.digit? char).isSome with
      | [] => !number.isEmpty
      | '.' :: part => !part.isEmpty && isDigits part
      | _ => false
  | _ => false

/-- The long options that a word with two dashes may abbreviate. -/
def candidates (stem : List Char) : List (String × Flag) :=
  Flag.spelled.filter fun entry => stem.isPrefixOf entry.1.toList

/-- Whether a spelling has a single dash. -/
def isShort (spelling : String) : Bool :=
  match spelling.toList with
  | '-' :: '-' :: _ => false
  | _ => true

/-- A dash-leading word that names no option is a value if it is a negative number or has a space. -/
def unnamed (text : String) : Word :=
  if isNegativeNumber text.toList || text.toList.contains ' ' then .value text else .unknown text

/-- The shape of a word before the separator. -/
def classify (text : String) : Except Misuse Word :=
  match text.toList with
  | '-' :: second :: rest =>
      match Flag.ofSpelling? text with
      | some flag => .ok (.option flag (isShort text) none)
      | none =>
          let (stem, value?) := splitAtEquals text.toList
          let named? := value?.bind fun _ => Flag.ofSpelling? (String.ofList stem)
          match named? with
          | some flag =>
              .ok (.option flag (isShort (String.ofList stem)) (value?.map String.ofList))
          | none =>
              if second = '-' then
                match candidates stem with
                | [] => .ok (unnamed text)
                | [entry] => .ok (.option entry.2 false (value?.map String.ofList))
                | entries => .error (.ambiguous text (entries.map (·.1)))
              else
                match Flag.ofLetter? second with
                | some flag => .ok (.option flag true (some (String.ofList rest)))
                | none => .ok (unnamed text)
  | _ => .ok (.value text)

/-- The shapes of words; after the separator every word is a value. -/
def classifyAll : List String → Except Misuse (List Word)
  | [] => .ok []
  | text :: rest =>
      if text = "--" then .ok (.separator :: rest.map .value)
      else do
        let word ← classify text
        let words ← classifyAll rest
        return word :: words

end Word

/-- The value of an option. An attached value that looks like the separator is dropped. -/
inductive Given where
  | text (value : String)
  | nothing
  deriving DecidableEq, Repr

def Given.ofText (value : String) : Given := if value = "--" then .nothing else .text value

/-- What a command line asks for. -/
structure Options where
  diagnose : Bool
  command? : Option Given
  executor : Given
  plain : Bool
  verbose : Bool
  deriving DecidableEq, Repr

/-- Why the shell stops right after reading its command line. -/
inductive Halt where
  | help
  | version
  | misuse (misuse : Misuse)
  deriving DecidableEq, Repr

namespace Options

/-- The executors that can be chosen. -/
def executors : List String := ["subprocess", "builtin"]

/-- The words that can stand without an option. -/
def targets : List String := ["doctor"]

/-- The options of an empty command line. -/
def default : Options := ⟨false, none, .text "subprocess", false, false⟩

/-- The options before the last one of a cluster, the last one, and the value that is attached to it.
Letters after an option without a value are further options. -/
def cluster (flag : Flag) : List Char → Except Misuse (List Flag × Flag × Option String)
  | [] =>
      if flag.takesValue then .ok ([], flag, some "") else .error (.valueIgnored flag "")
  | letter :: rest =>
      if flag.takesValue then .ok ([], flag, some (String.ofList (letter :: rest)))
      else match Flag.ofLetter? letter with
        | none => .error (.valueIgnored flag (String.ofList (letter :: rest)))
        | some next =>
            if rest.isEmpty then .ok ([flag], next, none)
            else (cluster next rest).map fun found => (flag :: found.1, found.2)

/-- The options that one word writes. -/
def unfold (flag : Flag) (short : Bool) (attached? : Option String) :
    Except Misuse (List Flag × Flag × Option String) :=
  match attached? with
  | none => .ok ([], flag, none)
  | some value =>
      if short then cluster flag value.toList
      else if flag.takesValue then .ok ([], flag, some value)
      else .error (.valueIgnored flag value)

/-- What is known after some words: the options, whether the target was given, whether it was the
last word, and the words that found no place. -/
structure Progress where
  options : Options
  targetGiven : Bool
  targetJustGiven : Bool
  leftover : List String
  deriving DecidableEq, Repr

/-- An option that has no value takes effect. -/
def switch (flag : Flag) (options : Options) : Except Halt Options :=
  match flag with
  | .help => .error .help
  | .version => .error .version
  | .plain => .ok { options with plain := true }
  | .verbose => .ok { options with verbose := true }
  | .command => .ok options
  | .executor => .ok options

/-- Options without values take effect in order. -/
def switchAll (flags : List Flag) (options : Options) : Except Halt Options :=
  flags.foldlM (fun options flag => switch flag options) options

/-- An option takes effect with its value. -/
def assign (flag : Flag) (value : String) (options : Options) : Except Halt Options :=
  match flag with
  | .command => .ok { options with command? := some (.ofText value) }
  | .executor =>
      match Given.ofText value with
      | .nothing => .ok { options with executor := .nothing }
      | .text name =>
          if executors.contains name then .ok { options with executor := .text name }
          else .error (.misuse (.noChoice flag.name name executors))
  | _ => .ok options

/-- A word without an option is the target, if there was none before. -/
def place (value : String) (progress : Progress) : Except Halt Progress :=
  if progress.targetGiven then
    .ok { progress with targetJustGiven := false, leftover := progress.leftover ++ [value] }
  else if targets.contains value then
    .ok {
      progress with
      options := { progress.options with diagnose := true }
      targetGiven := true
      targetJustGiven := true }
  else .error (.misuse (.noChoice "target" value targets))

/-- A misuse stops the shell. -/
def orHalt {Answer : Type} : Except Misuse Answer → Except Halt Answer
  | .ok answer => .ok answer
  | .error misuse => .error (.misuse misuse)

/-- Read words in order. An option without an attached value takes it from the next word, which must
be a value. The separator counts as a word only where no target can follow it. -/
def read : List Word → Progress → Except Halt Progress
  | [], progress => .ok progress
  | .value value :: rest, progress => do
      let progress ← place value progress
      read rest progress
  | .unknown text :: rest, progress =>
      read rest
        { progress with targetJustGiven := false, leftover := progress.leftover ++ [text] }
  | .separator :: rest, progress =>
      if progress.targetGiven && !progress.targetJustGiven then
        read rest { progress with leftover := progress.leftover ++ ["--"] }
      else read rest { progress with targetJustGiven := false }
  | .option flag short attached? :: rest, progress => do
      let (switches, last, value?) ← orHalt (unfold flag short attached?)
      if last.takesValue then
        match value? with
        | some value =>
            let options ← switchAll switches progress.options
            let options ← assign last value options
            read rest { progress with options := options, targetJustGiven := false }
        | none =>
            match rest with
            | .value value :: others =>
                let options ← switchAll switches progress.options
                let options ← assign last value options
                read others { progress with options := options, targetJustGiven := false }
            | _ => .error (.misuse (.valueMissing last))
      else
        let options ← switchAll (switches ++ [last]) progress.options
        read rest { progress with options := options, targetJustGiven := false }

/-- The options that a command line asks for. -/
def parse (arguments : List String) : Except Halt Options := do
  let words ← orHalt (Word.classifyAll arguments)
  let progress ← read words ⟨default, false, false, []⟩
  if progress.leftover.isEmpty then return progress.options
  else .error (.misuse (.unrecognized progress.leftover))

/-- How to call the shell. -/
def usage : String :=
  "usage: taskshell [-h] [-V] [-c LINE] [--executor \x7bsubprocess,builtin\x7d]\n" ++
  "                 [--plain] [-v]\n" ++
  "                 [\x7bdoctor\x7d]\n"

/-- What the shell and its options do. -/
def help : String :=
  usage ++ "\n" ++
  "Line-oriented command interpreter. Separate commands with '&' to run them\n" ++
  "concurrently or ';' to wait for each one.\n" ++
  "\n" ++
  "positional arguments:\n" ++
  "  \x7bdoctor\x7d              'doctor' runs environment diagnostics instead of a\n" ++
  "                        session.\n" ++
  "\n" ++
  "options:\n" ++
  "  -h, --help            show this help message and exit\n" ++
  "  -V, --version         show program's version number and exit\n" ++
  "  -c LINE, --command LINE\n" ++
  "                        Run a single command line, wait for its tasks, then\n" ++
  "                        exit.\n" ++
  "  --executor \x7bsubprocess,builtin\x7d\n" ++
  "                        Task backend: OS processes (default) or in-process\n" ++
  "                        builtin programs.\n" ++
  "  --plain               Read lines from stdin without the interactive prompt.\n" ++
  "  -v, --verbose         Enable debug logging on stderr.\n"

end Options

end CommandShell
