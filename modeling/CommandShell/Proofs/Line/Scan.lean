import CommandShell.Proofs.Line.Cut
import CommandShell.Proofs.Line.Slice
import CommandShell.Proofs.Text.Words

/-!
A line read once from left to right. `mem_scan_iff` says that the scan finds the longest stretches
without a delimiter, each at its place, and `commands_eq_scan` that the commands of a line are those
of its slices. What a slice holds depends on its stretch and on the character after it, and on
nothing else of the line.
-/

namespace CommandShell.Line

/-- No character of a text is a delimiter. -/
abbrev Free (text : List Char) : Prop := ∀ char ∈ text, isDelimiter char = false

theorem Free.nil : Free [] := fun _ inside => absurd inside List.not_mem_nil

theorem Free.concat {text : List Char} {char : Char} (free : Free text)
    (other : ¬ isDelimiter char = true) : Free (text ++ [char]) := by
  intro last inside
  rcases List.mem_append.1 inside with old | new
  · exact free last old
  · rw [List.mem_singleton.1 new]
    simpa using other

/-- What the text of a command can be: it has neither blanks around it nor delimiters in it. -/
structure Plain (text : List Char) : Prop where
  ne_nil : text ≠ []
  free : Free text
  trimmed : Text.Trimmed Text.isBlank text

/-- Whether a text is plain. -/
def isPlain (text : List Char) : Bool :=
  !text.isEmpty && text.all (fun char => !isDelimiter char) &&
    text.head?.all (fun char => !Text.isBlank char) &&
    text.getLast?.all (fun char => !Text.isBlank char)

theorem isPlain_iff {text : List Char} : isPlain text = true ↔ Plain text := by
  simp only [isPlain, Bool.and_eq_true, Bool.not_eq_true', List.isEmpty_eq_false_iff,
    List.all_eq_true, Option.all_eq_true]
  constructor
  · rintro ⟨⟨⟨nonempty, free⟩, starts⟩, ends⟩
    exact ⟨nonempty, free, starts, ends⟩
  · rintro ⟨nonempty, free, starts, ends⟩
    exact ⟨⟨⟨nonempty, free⟩, starts⟩, ends⟩

instance (text : List Char) : Decidable (Plain text) := decidable_of_iff _ isPlain_iff

/-- The words of a plain text are what its inner blanks separate. -/
theorem Plain.words_ne_nil {text : String} (plain : Plain text.toList) : wordsOf text ≠ [] := by
  rw [wordsOf, ne_eq, List.map_eq_nil_iff, Text.words_eq_nil_iff]
  intro blank
  obtain ⟨char, first⟩ := Option.ne_none_iff_exists'.1 (List.head?_eq_none_iff.not.2 plain.ne_nil)
  have kept := plain.trimmed.starts char first
  rw [blank char (List.mem_of_mem_head? first)] at kept
  cases kept

theorem Plain.of_mem_words {text word : String} (plain : Plain text.toList)
    (inside : word ∈ wordsOf text) :
    word.toList ≠ [] ∧
      ∀ char ∈ word.toList, Text.isBlank char = false ∧ isDelimiter char = false := by
  obtain ⟨chars, member, rfl⟩ := List.mem_map.1 inside
  rw [String.toList_ofList]
  refine ⟨Text.ne_nil_of_mem_words member, fun char among => ?_⟩
  exact ⟨Text.isBlank_of_mem_words member among,
    plain.free char (Text.mem_of_mem_words member among)⟩

/-- A stretch holds the text that its outer blanks leave. -/
theorem command?_eq_some_iff {stretch : List Char} {mark : Char} {command : Command}
    (free : Free stretch) :
    command? stretch mark = some command ↔
      Plain command.text.toList ∧ command.words = wordsOf command.text ∧
        command.concurrent = (mark == concurrentMark) ∧
        ∃ left right, Text.Blank left ∧ Text.Blank right ∧
          stretch = left ++ command.text.toList ++ right := by
  constructor
  · intro made
    by_cases empty : (Text.trim Text.isBlank stretch).isEmpty
    · simp [command?, empty] at made
    · simp only [command?, empty, Bool.false_eq_true, ↓reduceIte, Option.some.injEq] at made
      subst made
      rw [String.toList_ofList]
      refine ⟨⟨by simpa using empty, ?_, Text.trim_trimmed _ _⟩, rfl, rfl,
        Text.exists_eq_append_trim _ _⟩
      exact fun char inside => free char (Text.mem_of_mem_trim inside)
  · rintro ⟨plain, words, concurrent, left, right, blank, blank', rfl⟩
    have trimmed := Text.trim_append_append blank blank' plain.trimmed
    have nonempty : command.text.toList.isEmpty = false := by simpa using plain.ne_nil
    simp only [command?, trimmed, nonempty, Bool.false_eq_true, ↓reduceIte, String.ofList_toList]
    rw [← words, ← concurrent]

namespace Slice

/-- A stretch without a delimiter is a longest one where only delimiters and the ends of the line
stand next to it. -/
structure Longest (line : List Char) (slice : Slice) : Prop where
  whole : slice.before ++ slice.stretch ++ slice.after = line
  free : Free slice.stretch
  opened : ∀ char ∈ slice.before.getLast?, isDelimiter char = true
  closed : ∀ char ∈ slice.after.head?, isDelimiter char = true

/-- The command of a slice, which starts before the next one ends when the concurrent mark follows
the stretch. A slice of blanks holds no command. -/
def command? (slice : Slice) : Option Command :=
  if slice.stretch.all Text.isBlank then none
  else
    let text := String.ofList (Text.trim Text.isBlank slice.stretch)
    some ⟨text, wordsOf text, slice.after.head? == some concurrentMark⟩

/-- How a command stands on a slice. -/
structure Holds (slice : Slice) (command : Command) : Prop where
  plain : Plain command.text.toList
  stretch : ∃ left right, Text.Blank left ∧ Text.Blank right ∧
    slice.stretch = left ++ command.text.toList ++ right
  words : command.words = wordsOf command.text
  words_ne_nil : command.words ≠ []
  word : ∀ word ∈ command.words, word.toList ≠ [] ∧
    ∀ char ∈ word.toList, Text.isBlank char = false ∧ isDelimiter char = false
  concurrent : command.concurrent = true ↔ slice.after.head? = some concurrentMark

end Slice

/-- Read the rest of a line. The characters of `stretch` have been read since the last delimiter,
and those of `before` up to it. -/
def scanFrom (before stretch : List Char) : List Char → List Slice
  | [] => [⟨before, stretch, []⟩]
  | char :: rest =>
      if isDelimiter char then
        ⟨before, stretch, char :: rest⟩ :: scanFrom (before ++ stretch ++ [char]) [] rest
      else scanFrom before (stretch ++ [char]) rest

/-- The slices of a line in order. -/
def scan (line : List Char) : List Slice := scanFrom [] [] line

section Places

variable {line : List Char} {slice : Slice}

theorem Slice.longest_iff : slice.Longest line ↔ slice.Maximal isDelimiter line :=
  ⟨fun ⟨whole, free, opened, closed⟩ => ⟨whole, free, opened, closed⟩,
    fun ⟨whole, free, opened, closed⟩ => ⟨whole, free, opened, closed⟩⟩

theorem scanFrom_eq_slicesFrom (before stretch rest : List Char) :
    scanFrom before stretch rest = slicesFrom isDelimiter before stretch rest := by
  induction rest generalizing before stretch with
  | nil => rfl
  | cons char rest ih => rw [scanFrom, slicesFrom, ih, ih]

theorem scan_eq_slices (line : List Char) : scan line = slices isDelimiter line :=
  scanFrom_eq_slicesFrom [] [] line

/-- The slices come in the order of their places, none of them twice. -/
theorem scan_sorted (line : List Char) :
    (scan line).Pairwise fun first second => first.before.length < second.before.length := by
  rw [scan_eq_slices]
  exact slices_sorted isDelimiter line

/-- The scan finds the longest stretches of a line. -/
theorem mem_scan_iff : slice ∈ scan line ↔ slice.Longest line := by
  rw [scan_eq_slices, mem_slices_iff, Slice.longest_iff]

end Places

section Commands

variable {line before stretch : List Char} {slice : Slice} {command : Command}

/-- The mark after a slice closes it, and at the end of the line the sequential mark does. -/
theorem Slice.command?_eq (slice : Slice) :
    slice.command? = Line.command? slice.stretch (slice.after.headD sequentialMark) := by
  have mode : (slice.after.head? == some concurrentMark) =
      (slice.after.headD sequentialMark == concurrentMark) := by
    cases slice.after <;> rfl
  by_cases blank : slice.stretch.all Text.isBlank
  · rw [command?, if_pos blank, command?_eq_none_iff.2 blank]
  · have kept : Text.trim Text.isBlank slice.stretch ≠ [] := by
      rw [ne_eq, Text.trim_eq_nil_iff]
      simpa using blank
    simp [command?, blank, Line.command?, kept, mode]

theorem commands_eq_scanFrom (free : Free stretch) (before rest : List Char) :
    commands (stretch ++ rest) = (scanFrom before stretch rest).filterMap Slice.command? := by
  rw [List.filterMap_eq_flatMap_toList]
  induction rest generalizing before stretch with
  | nil =>
      rw [List.append_nil, commands_eq_closedCommands, closedCommands_of_free free, scanFrom,
        List.flatMap_singleton, Slice.command?_eq]
      rfl
  | cons char rest ih =>
      by_cases delimiter : isDelimiter char
      · have others := ih .nil (before ++ stretch ++ [char])
        rw [List.nil_append] at others
        rw [commands_append delimiter, closedCommands_of_free free, others, scanFrom,
          if_pos delimiter, List.flatMap_cons, Slice.command?_eq]
        rfl
      · rw [scanFrom, if_neg delimiter, ← ih (free.concat delimiter), List.append_assoc,
          List.singleton_append]

/-- The commands of a line are those of its slices in order. -/
theorem commands_eq_scan (line : List Char) :
    commands line = (scan line).filterMap Slice.command? :=
  commands_eq_scanFrom .nil [] line

theorem Slice.command?_eq_none_iff :
    slice.command? = none ↔ Text.Blank slice.stretch := by
  rw [Slice.command?_eq, Line.command?_eq_none_iff, List.all_eq_true]

theorem Slice.Longest.holds (longest : slice.Longest line)
    (made : slice.command? = some command) : slice.Holds command := by
  rw [Slice.command?_eq] at made
  obtain ⟨plain, words, concurrent, stretch⟩ := (command?_eq_some_iff longest.free).1 made
  constructor
  case plain => exact plain
  case stretch => exact stretch
  case words => exact words
  case words_ne_nil =>
    rw [words]
    exact plain.words_ne_nil
  case word =>
    rw [words]
    exact fun word inside => plain.of_mem_words inside
  case concurrent =>
    rw [concurrent, beq_iff_eq]
    cases slice.after with
    | nil => simp [sequentialMark, concurrentMark]
    | cons mark rest => simp

/-- What stands before a slice and what stands after the mark behind it are lines of their own. -/
theorem Slice.Longest.commands_eq (longest : slice.Longest line) :
    commands line =
      commands slice.before ++ slice.command?.toList ++ commands slice.after.tail := by
  have rest : commands (slice.stretch ++ slice.after) =
      slice.command?.toList ++ commands slice.after.tail := by
    rw [Slice.command?_eq]
    rcases after : slice.after with _ | ⟨mark, rest⟩
    · rw [List.append_nil, commands_eq_closedCommands, closedCommands_of_free longest.free]
      exact (List.append_nil _).symm
    · have delimiter : isDelimiter mark = true := longest.closed mark (by simp [after])
      rw [commands_append delimiter, closedCommands_of_free longest.free]
      rfl
  rw [← longest.whole, List.append_assoc, List.append_assoc]
  rcases List.eq_nil_or_concat slice.before with none | ⟨front, mark, ends⟩
  · rw [none, List.nil_append, rest]
    rfl
  · have delimiter : isDelimiter mark = true := longest.opened mark (by simp [ends])
    rw [ends, List.concat_append, commands_append delimiter, rest, List.concat_eq_append,
      commands_concat delimiter]

/-- Every command of a line stands on one of its slices. -/
theorem exists_holds (inside : command ∈ commands line) :
    ∃ slice : Slice, slice.Longest line ∧ slice.Holds command := by
  rw [commands_eq_scan, List.mem_filterMap] at inside
  obtain ⟨slice, scanned, made⟩ := inside
  have longest := mem_scan_iff.1 scanned
  exact ⟨slice, longest, longest.holds made⟩

end Commands

end CommandShell.Line
