import CommandShell.Text.Characters
import CommandShell.Text.Columns

/-!
Laying out text on a console: tabs become spaces, and long lines are broken between words.
-/

namespace CommandShell.Layout

/-- The pieces of a text between the characters that end one. -/
def split (ends : Char → Bool) : List Char → List (List Char)
  | [] => [[]]
  | char :: rest =>
      if ends char then [] :: split ends rest
      else match split ends rest with
        | [] => [[char]]
        | piece :: others => (char :: piece) :: others

/-- The lines of a text. -/
def lines (text : List Char) : List (List Char) := split (· == '\n') text

/-- Lines with a line feed after each. -/
def join (lines : List (List Char)) : List Char := lines.flatMap (· ++ ['\n'])

/-- Tabs stop at multiples of this many columns. -/
def tabWidth : Nat := 8

/-- The spaces from a column to the next stop; at a stop there are none. -/
def spacesToStop (column : Nat) : Nat := (tabWidth - column % tabWidth) % tabWidth

/-- A line with spaces for its tabs, from a column on. `part` holds the characters since the last
tab. A tab is one space, measured together with them, and then the spaces to the next stop. -/
def expandTabsFrom (column : Nat) (part : List Char) : List Char → List Char
  | [] => part
  | char :: rest =>
      if char = '\t' then
        let part := part ++ [' ']
        let reached := column + Text.columns part
        part ++ List.replicate (spacesToStop reached) ' ' ++
          expandTabsFrom (reached + spacesToStop reached) [] rest
      else expandTabsFrom column (part ++ [char]) rest

/-- A line with spaces for its tabs. -/
def expandTabs (line : List Char) : List Char := expandTabsFrom 0 [] line

/-- The chunks of a line after the characters of `chunk`: a chunk is a word with the blanks that
follow it, and the first chunk also has the blanks before it. -/
def chunksFrom (chunk : List Char) (word blank : Bool) : List Char → List (List Char)
  | [] => if word then [chunk] else []
  | char :: rest =>
      if Text.isBlank char then chunksFrom (chunk ++ [char]) word word rest
      else if blank then chunk :: chunksFrom [char] true false rest
      else chunksFrom (chunk ++ [char]) true false rest

/-- The chunks of a line. -/
def chunks (line : List Char) : List (List Char) := chunksFrom [] false false line

/-- Clusters put together into pieces that fit a width, after a piece that takes `used` columns. -/
def chopFrom (width : Nat) (piece : List Char) (used : Nat) :
    List Text.Cluster → List (List Char)
  | [] => [piece]
  | cluster :: rest =>
      if width < used + cluster.columns then
        piece :: chopFrom width cluster.text cluster.columns rest
      else chopFrom width (piece ++ cluster.text) (used + cluster.columns) rest

/-- A text cut between clusters into pieces that fit a width. -/
def chop (width : Nat) (text : List Char) : List (List Char) :=
  chopFrom width [] 0 (Text.clusters text)

/-- What becomes of a word that is wider than a line. -/
inductive Overflow where
  /-- The word goes on in the next line. -/
  | fold
  /-- An ellipsis stands for the end of the word. -/
  | ellipsis
  deriving DecidableEq, Repr

/-- Put chunks on lines, after the characters of `line`. A chunk goes where its word fits, and a
word wider than any line starts one. -/
def fill (overflow : Overflow) (width : Nat) (line : List Char) (used : Nat) :
    List (List Char) → List (List Char)
  | [] => [line]
  | chunk :: rest =>
      let wordWidth := Text.columns (Text.trimEnd Text.isBlank chunk)
      if used + wordWidth ≤ width then
        fill overflow width (line ++ chunk) (used + Text.columns chunk) rest
      else if wordWidth ≤ width then
        line :: fill overflow width chunk (Text.columns chunk) rest
      else
        let pieces := match overflow with
          | .fold => chop width chunk
          | .ellipsis => [chunk]
        let last := pieces.getLast?.getD []
        (if line.isEmpty then [] else [line]) ++ pieces.dropLast ++
          fill overflow width last (Text.columns last) rest

/-- The longest start of some clusters that fits a width. What is left of the width when a double
column does not fit is filled with spaces. -/
def cropFrom (width : Nat) : List Text.Cluster → List Char
  | [] => []
  | cluster :: rest =>
      if cluster.columns ≤ width then cluster.text ++ cropFrom (width - cluster.columns) rest
      else List.replicate width ' '

/-- The longest start of a text that fits a width. -/
def crop (width : Nat) (text : List Char) : List Char := cropFrom width (Text.clusters text)

/-- A line that is too wide for its width is cut short. -/
def fit (overflow : Overflow) (width : Nat) (line : List Char) : List Char :=
  if Text.columns line ≤ width then line
  else match overflow with
    | .fold => crop width line
    | .ellipsis => crop (width - 1) line ++ ['…']

/-- Blanks beyond the width are dropped at the end of a line. -/
def cutBlanks (width : Nat) (line : List Char) : List Char :=
  let kept := (Text.trimEnd Text.isBlank line).length
  line.take (max kept width)

/-- The pieces that a long line is broken into. -/
def broken (overflow : Overflow) (width : Nat) (line : List Char) : List (List Char) :=
  match chunks line with
  | [] => [line]
  | all => fill overflow width [] 0 all

/-- A piece of a line as it is shown. -/
def settled (overflow : Overflow) (width : Nat) (piece : List Char) : List Char :=
  fit overflow width (cutBlanks width piece)

/-- The lines that a long line is broken into. -/
def wrap (overflow : Overflow) (width : Nat) (line : List Char) : List (List Char) :=
  (broken overflow width line).map (settled overflow width)

/-- The lines of a text in a width. -/
def paragraph (overflow : Overflow) (width : Nat) (text : List Char) : List (List Char) :=
  (lines text).flatMap fun line => wrap overflow width (expandTabs line)

/-- Whether some character between two places is on one of the pieces of a line, the first of which
starts at `place`. -/
def piecesShow (overflow : Overflow) (width start finish : Nat) : Nat → List (List Char) → Bool
  | _, [] => false
  | place, piece :: rest =>
      let next := place + piece.length
      (decide (max start place < min finish next) &&
        decide (start - place < (settled overflow width piece).length)) ||
        piecesShow overflow width start finish next rest

/-- Whether some character between two places is shown on one of the lines of a text, the first of which
starts at `place`. -/
def linesShow (overflow : Overflow) (width start finish : Nat) : Nat → List (List Char) → Bool
  | _, [] => false
  | place, line :: rest =>
      let reach (target : Nat) : Nat := (expandTabs (line.take (target - place))).length
      piecesShow overflow width (reach start) (reach finish) 0
          (broken overflow width (expandTabs line)) ||
        linesShow overflow width start finish (place + line.length + 1) rest

/-- Whether the part of a text between two places is shown. A text that is neither cut nor broken also shows
the empty parts of it. -/
def shows (overflow : Overflow) (width : Nat) (text : List Char) (start finish : Nat) : Bool :=
  match broken overflow width text with
  | [piece] =>
      if piece.any (fun char => char == '\t' || char == '\n') then
        linesShow overflow width start finish 0 (lines text)
      else
        let kept := (settled overflow width piece).length
        decide (piece.length ≤ kept ∨ start < kept)
  | _ => linesShow overflow width start finish 0 (lines text)

/-- Characters that end a line for the purpose of measuring. -/
def endsLine (char : Char) : Bool :=
  [0x0A, 0x1C, 0x1D, 0x1E, 0x85, 0x2028, 0x2029].contains char.toNat

/-- The columns of the widest line of a text. A tab takes none. -/
def breadth (text : List Char) : Nat :=
  ((split endsLine text).map Text.columns).foldl max 0

/-- A text in the middle of a number of columns; an odd space goes to the right. -/
def centre (width : Nat) (text : List Char) : List Char :=
  let spare := width - Text.columns text
  List.replicate (spare / 2) ' ' ++ text ++ List.replicate (spare - spare / 2) ' '

/-- A text with spaces up to a number of columns. -/
def pad (width : Nat) (text : List Char) : List Char :=
  text ++ List.replicate (width - Text.columns text) ' '

/-- A text at the left of a number of columns. A joiner at its end swallows the first space, so that
the padded text can need one space more. -/
def left (width : Nat) (text : List Char) : List Char := pad width (pad width text)

end CommandShell.Layout
