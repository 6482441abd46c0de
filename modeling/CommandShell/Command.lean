import CommandShell.Text.Words

/-!
Commands and the lines they are written on. A line is cut at every delimiter, a stretch of blanks is
no command, and the delimiter right after a stretch says whether the next command may overtake it.
-/

namespace CommandShell

/-- The text and the words of a command, and whether the next command starts before it ends. -/
structure Command where
  text : String
  words : List String
  concurrent : Bool
  deriving DecidableEq, Repr

namespace Line

/-- Closes a command that runs beside the next one. -/
def concurrentMark : Char := '&'

/-- Closes a command that ends before the next one starts. -/
def sequentialMark : Char := ';'

/-- Both marks end a command. -/
def isDelimiter (char : Char) : Bool := char == concurrentMark || char == sequentialMark

/-- The stretches between the delimiters; there is one more of them than delimiters. -/
def stretches : List Char → List (List Char)
  | [] => [[]]
  | char :: rest =>
      if isDelimiter char then [] :: stretches rest
      else match stretches rest with
        | [] => [[char]]
        | stretch :: others => (char :: stretch) :: others

/-- The delimiters of a line, with one more for the stretch that the end of the line closes. -/
def closers (line : List Char) : List Char := line.filter isDelimiter ++ [sequentialMark]

/-- A stretch of blanks is no command, whatever closes it. -/
def command? (stretch : List Char) (closer : Char) : Option Command :=
  let text := Text.trim Text.isBlank stretch
  if text.isEmpty then none
  else some {
    text := String.ofList text
    words := wordsOf (String.ofList text)
    concurrent := closer == concurrentMark }

/-- The commands of a line in order. -/
def commands (line : List Char) : List Command :=
  ((stretches line).zip (closers line)).filterMap fun slice => command? slice.1 slice.2

end Line

/-- The commands written on a line. -/
def Command.ofLine (line : String) : List Command := Line.commands line.toList

/-- The plainest spelling of a command on a line. -/
def Command.render (command : Command) : String :=
  command.text ++ (if command.concurrent then "&" else ";")

end CommandShell
