import CommandShell.Proofs.Session.Loop
import Mathlib.Data.List.DropRight
import Mathlib.Data.List.ModifyLast

/-!
Lines that are cut at a delimiter. `closedCommands_append` says that the commands of a line are those
of the part up to a delimiter, closed by it, and then those of the rest. Everything about cuts
follows from it, also that a session runs the two parts of a line as it runs the line.
-/

namespace CommandShell

namespace Text

/-- Nothing is left of a text that has only characters to drop. -/
theorem trim_eq_nil_iff (drop : Char → Bool) (text : List Char) :
    trim drop text = [] ↔ ∀ char ∈ text, drop char = true := by
  have ends : trim drop text = (text.dropWhile drop).rdropWhile drop := rfl
  rw [ends, List.rdropWhile_eq_nil_iff, ← List.dropWhile_eq_nil_iff, List.dropWhile_idempotent,
    List.dropWhile_eq_nil_iff]

end Text

/-- The command starts before the next one ends. -/
def Command.beside (command : Command) : Command := { command with concurrent := true }

namespace Line

/-- The stretch that the end of a line closes: the text after its last delimiter. -/
def lastStretch (line : List Char) : List Char := line.rtakeWhile fun char => !isDelimiter char

/-- The commands of a line whose last stretch is closed by a mark. -/
def closedCommands (line : List Char) (mark : Char) : List Command :=
  ((stretches line).zip (line.filter isDelimiter ++ [mark])).filterMap fun slice =>
    command? slice.1 slice.2

/-- The end of a line closes its last stretch as the sequential mark does. -/
theorem commands_eq_closedCommands (line : List Char) :
    commands line = closedCommands line sequentialMark := rfl

theorem stretches_eq_splitOnP (line : List Char) : stretches line = line.splitOnP isDelimiter := by
  induction line with
  | nil => rfl
  | cons char rest ih =>
      rw [List.splitOnP_cons_eq_if_modifyHead, stretches, ih]
      rcases split : List.splitOnP isDelimiter rest with _ | ⟨first, others⟩
      · exact absurd split (List.splitOnP_ne_nil _ _)
      · rfl

theorem stretches_append {mark : Char} (delimiter : isDelimiter mark = true)
    (first second : List Char) :
    stretches (first ++ mark :: second) = stretches first ++ stretches second := by
  simp only [stretches_eq_splitOnP, List.splitOnP_append_cons first second delimiter]

theorem length_stretches (line : List Char) :
    (stretches line).length = (line.filter isDelimiter).length + 1 := by
  induction line with
  | nil => rfl
  | cons char rest ih =>
      by_cases delimiter : isDelimiter char
      · simp [stretches, delimiter, ih]
      · rcases split : stretches rest with _ | ⟨first, others⟩
        · simp [split] at ih
        · simpa [stretches, delimiter, split] using ih

/-- A delimiter closes what stands before it, and what follows it is read as a line of its own. -/
theorem closedCommands_append {mark : Char} (delimiter : isDelimiter mark = true)
    (first second : List Char) (closer : Char) :
    closedCommands (first ++ mark :: second) closer =
      closedCommands first mark ++ closedCommands second closer := by
  have closers : (first ++ mark :: second).filter isDelimiter ++ [closer] =
      (first.filter isDelimiter ++ [mark]) ++ (second.filter isDelimiter ++ [closer]) := by
    simp [delimiter]
  rw [closedCommands, stretches_append delimiter, closers, List.zip_append, List.filterMap_append]
  · rfl
  · simp [length_stretches]

theorem commands_append {mark : Char} (delimiter : isDelimiter mark = true)
    (first second : List Char) :
    commands (first ++ mark :: second) = closedCommands first mark ++ commands second := by
  rw [commands_eq_closedCommands, closedCommands_append delimiter, ← commands_eq_closedCommands]

theorem commands_concat {mark : Char} (delimiter : isDelimiter mark = true) (line : List Char) :
    commands (line ++ [mark]) = closedCommands line mark := by
  rw [commands_append delimiter]
  exact List.append_nil _

theorem closedCommands_of_free {line : List Char} (free : ∀ char ∈ line, isDelimiter char = false)
    (mark : Char) : closedCommands line mark = (command? line mark).toList := by
  have single : stretches line = [line] := by
    rw [stretches_eq_splitOnP, List.splitOnP_eq_singleton free]
  have none : line.filter isDelimiter = [] := List.filter_eq_nil_iff.2 (by simpa using free)
  rcases made : command? line mark with _ | command <;> simp [closedCommands, single, none, made]

theorem lastStretch_free {line : List Char} {char : Char} (inside : char ∈ lastStretch line) :
    isDelimiter char = false := by
  simpa using List.mem_rtakeWhile_imp inside

/-- Only the last command of a line depends on what closes its last stretch. -/
theorem exists_closedCommands_eq (line : List Char) :
    ∃ before, ∀ mark,
      closedCommands line mark = before ++ (command? (lastStretch line) mark).toList := by
  have whole : line.rdropWhile (fun char => !isDelimiter char) ++ lastStretch line = line :=
    List.rdropWhile_append_rtakeWhile
  rcases List.eq_nil_or_concat (line.rdropWhile fun char => !isDelimiter char) with
    empty | ⟨front, delimiter, shape⟩
  · rw [empty, List.nil_append] at whole
    refine ⟨[], fun mark => ?_⟩
    have free : ∀ char ∈ line, isDelimiter char = false := fun char inside =>
      lastStretch_free (whole.symm ▸ inside)
    rw [whole, closedCommands_of_free free, List.nil_append]
  · have closes : isDelimiter delimiter = true := by
      have last := List.rdropWhile_last_not (fun char => !isDelimiter char) line
        (by simp [shape])
      simpa [shape] using last
    refine ⟨closedCommands front delimiter, fun mark => ?_⟩
    conv_lhs => rw [← whole, shape, List.concat_append,
      closedCommands_append closes, closedCommands_of_free fun _ => lastStretch_free]

theorem command?_concurrentMark (stretch : List Char) :
    command? stretch concurrentMark = (command? stretch sequentialMark).map Command.beside := by
  by_cases empty : (Text.trim Text.isBlank stretch).isEmpty
  · simp [command?, empty]
  · simp [command?, empty, Command.beside]

theorem command?_eq_none_iff {stretch : List Char} {mark : Char} :
    command? stretch mark = none ↔ stretch.all Text.isBlank = true := by
  simp [command?, Text.trim_eq_nil_iff]

/-- The concurrent mark after a line changes its last command, if its last stretch holds one. -/
theorem commands_concat_concurrentMark (line : List Char) :
    commands (line ++ [concurrentMark]) =
      if (lastStretch line).all Text.isBlank then commands line
      else (commands line).modifyLast Command.beside := by
  obtain ⟨before, closed⟩ := exists_closedCommands_eq line
  rw [commands_concat rfl, commands_eq_closedCommands, closed, closed, command?_concurrentMark]
  rcases last : command? (lastStretch line) sequentialMark with _ | command
  · simp [command?_eq_none_iff.1 last]
  · have kept : (lastStretch line).all Text.isBlank = false := by
      rw [← Bool.not_eq_true, ← command?_eq_none_iff, last]
      simp
    rw [kept]
    simp [List.modifyLast_concat]

end Line

namespace Session

variable {Lines Tasks : Type} {executor : Executor Tasks} {session later : Session Lines Tasks}
  {launches : List Launch} {events : List Event}

/-- A line whose commands are those of two lines in order runs as the two lines do, and counts
once. -/
theorem runLine_append_eq_ok_iff {whole first second : String}
    (cut : Command.ofLine whole = Command.ofLine first ++ Command.ofLine second) :
    runLine executor whole session = ⟨.ok launches, later, events⟩ ↔
      ∃ front middle fore back last aft,
        runLine executor first session = ⟨.ok front, middle, fore⟩ ∧
        runLine executor second middle = ⟨.ok back, last, aft⟩ ∧
        launches = front ++ back ∧ events = fore ++ aft ∧
        later = { last with counter := last.counter - 1 } := by
  rw [runLine_eq_ok_iff, cut]
  constructor
  · rintro ⟨tasks, ran, rfl⟩
    obtain ⟨front, between, back, fore, aft, one, two, rfl, rfl⟩ :=
      Sequencer.run_append_eq_ok_iff.1 ran
    exact ⟨front, _, fore, back, _, aft, runLine_eq_ok_iff.2 ⟨between, one, rfl⟩,
      runLine_eq_ok_iff.2 ⟨tasks, two, rfl⟩, rfl, rfl, by simp⟩
  · rintro ⟨front, middle, fore, back, last, aft, one, two, rfl, rfl, rfl⟩
    obtain ⟨between, ran, rfl⟩ := runLine_eq_ok_iff.1 one
    obtain ⟨tasks, ran', rfl⟩ := runLine_eq_ok_iff.1 two
    exact ⟨tasks, Sequencer.run_append_eq_ok_iff.2 ⟨front, between, back, fore, aft, ran, ran', rfl,
      rfl⟩, by simp⟩

/-- Cutting a line after a delimiter changes neither its commands nor, but for the count of lines,
what a session does. -/
theorem cut_at_delimiter (first second : String) {mark : Char}
    (delimiter : Line.isDelimiter mark = true) :
    Command.ofLine (first ++ String.singleton mark ++ second) =
        Command.ofLine (first ++ String.singleton mark) ++ Command.ofLine second ∧
      Command.ofLine (first ++ ";") = Command.ofLine first ∧
      Command.ofLine (first ++ "&") =
        (if (Line.lastStretch first.toList).all Text.isBlank then Command.ofLine first
          else (Command.ofLine first).modifyLast Command.beside) ∧
      ∀ {Lines Tasks : Type} (executor : Executor Tasks) (session later : Session Lines Tasks)
        (launches : List Launch) (events : List Event),
        runLine executor (first ++ String.singleton mark ++ second) session =
            ⟨.ok launches, later, events⟩ ↔
          ∃ front middle fore back last aft,
            runLine executor (first ++ String.singleton mark) session =
              ⟨.ok front, middle, fore⟩ ∧
            runLine executor second middle = ⟨.ok back, last, aft⟩ ∧
            launches = front ++ back ∧ events = fore ++ aft ∧
            later = { last with counter := last.counter - 1 } := by
  have cut : Command.ofLine (first ++ String.singleton mark ++ second) =
      Command.ofLine (first ++ String.singleton mark) ++ Command.ofLine second := by
    simp only [Command.ofLine, String.toList_append, String.toList_singleton, List.append_assoc,
      List.singleton_append]
    rw [Line.commands_append delimiter, Line.commands_concat delimiter]
  refine ⟨cut, ?_, ?_, fun executor session later launches events =>
    runLine_append_eq_ok_iff cut⟩
  · rw [Command.ofLine, String.toList_append]
    exact Line.commands_concat rfl first.toList
  · rw [Command.ofLine, String.toList_append]
    exact Line.commands_concat_concurrentMark first.toList

theorem cut_at_concurrentMark :
    Line.isDelimiter '&' = true ∧
      Command.ofLine ("a ; b" ++ String.singleton '&' ++ " ;c") =
        Command.ofLine ("a ; b" ++ String.singleton '&') ++ Command.ofLine " ;c" ∧
      Command.ofLine ("a ; b" ++ String.singleton '&') =
        [⟨"a", ["a"], false⟩, ⟨"b", ["b"], true⟩] ∧
      Command.ofLine " ;c" = [⟨"c", ["c"], false⟩] :=
  ⟨rfl, (cut_at_delimiter "a ; b" " ;c" rfl).1, by decide, by decide⟩

end Session

end CommandShell
