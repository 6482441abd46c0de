import CommandShell.Proofs.Line.Scan

/-!
The ways to write commands on a line. `spelling_iff` says that a line has exactly the commands that
it spells, however much blank space and however many empty slices there are between them.
-/

namespace CommandShell

/-- The command with a text. -/
def Command.ofText (text : String) (concurrent : Bool) : Command := ⟨text, wordsOf text, concurrent⟩

/-- Commands in their plainest spelling, one after the other. -/
def Command.renderAll (commands : List Command) : String :=
  String.join (commands.map Command.render)

namespace Line

/-- The mark that closes a command. -/
def closer (concurrent : Bool) : Char := if concurrent then concurrentMark else sequentialMark

theorem isDelimiter_closer (concurrent : Bool) : isDelimiter (closer concurrent) = true := by
  cases concurrent <;> rfl

theorem closer_beq (concurrent : Bool) :
    (closer concurrent == concurrentMark) = concurrent := by
  cases concurrent <;> rfl

/-- The lines that write texts with their modes. Blanks may stand around every text, empty slices
before the first text and after every mark, and the last text needs no mark when it is
sequential. -/
inductive Spelling : List (String × Bool) → List Char → Prop where
  | blank {blanks : List Char} (blank : Text.Blank blanks) : Spelling [] blanks
  | skip {blanks line : List Char} {mark : Char} {texts : List (String × Bool)}
      (blank : Text.Blank blanks) (delimiter : isDelimiter mark = true)
      (rest : Spelling texts line) : Spelling texts (blanks ++ mark :: line)
  | text {left right line : List Char} {text : String} {concurrent : Bool}
      {texts : List (String × Bool)} (plain : Plain text.toList) (before : Text.Blank left)
      (after : Text.Blank right) (rest : Spelling texts line) :
      Spelling ((text, concurrent) :: texts)
        (left ++ text.toList ++ right ++ closer concurrent :: line)
  | last {left right : List Char} {text : String} (plain : Plain text.toList)
      (before : Text.Blank left) (after : Text.Blank right) :
      Spelling [(text, false)] (left ++ text.toList ++ right)

/-- Every line is a stretch, or a stretch, a delimiter and a line. -/
@[elab_as_elim]
theorem induction_on {motive : List Char → Prop} (line : List Char)
    (stretch : ∀ stretch, Free stretch → motive stretch)
    (cut : ∀ stretch mark rest, Free stretch → isDelimiter mark = true → motive rest →
      motive (stretch ++ mark :: rest)) : motive line := by
  -- The induction is on the rest of the line, for every start of a stretch that was read before it.
  have grown : ∀ start, Free start → motive (start ++ line) := by
    induction line with
    | nil =>
        intro start free
        rw [List.append_nil]
        exact stretch start free
    | cons char rest ih =>
        intro start free
        by_cases delimiter : isDelimiter char
        · exact cut start char rest free delimiter (ih [] .nil)
        · rw [← List.singleton_append, ← List.append_assoc]
          exact ih _ (free.concat delimiter)
  exact grown [] .nil

section Stretches

variable {left right : List Char} {text : String}

theorem free_of_blank {blanks : List Char} (blank : Text.Blank blanks) : Free blanks := by
  intro char inside
  have isBlank := blank char inside
  by_contra delimiter
  rw [Bool.not_eq_false, isDelimiter, Bool.or_eq_true, beq_iff_eq, beq_iff_eq] at delimiter
  rcases delimiter with rfl | rfl <;> exact absurd isBlank (by decide)

theorem Plain.free_padded (plain : Plain text.toList) (before : Text.Blank left)
    (after : Text.Blank right) : Free (left ++ text.toList ++ right) := by
  intro char inside
  rcases List.mem_append.1 inside with inside | inside
  · rcases List.mem_append.1 inside with inside | inside
    · exact free_of_blank before char inside
    · exact plain.free char inside
  · exact free_of_blank after char inside

/-- Blanks around a plain text do not change its command. -/
theorem Plain.command?_padded (plain : Plain text.toList) (before : Text.Blank left)
    (after : Text.Blank right) (mark : Char) :
    command? (left ++ text.toList ++ right) mark =
      some (Command.ofText text (mark == concurrentMark)) :=
  (command?_eq_some_iff (plain.free_padded before after)).2
    ⟨plain, rfl, rfl, left, right, before, after, rfl⟩

end Stretches

theorem Spelling.commands_eq {texts : List (String × Bool)} {line : List Char}
    (spelling : Spelling texts line) :
    commands line = texts.map fun entry => Command.ofText entry.1 entry.2 := by
  induction spelling with
  | blank blank =>
      rw [commands_eq_closedCommands, closedCommands_of_free (free_of_blank blank),
        command?_eq_none_iff.2 (List.all_eq_true.2 blank)]
      rfl
  | skip blank delimiter _ ih =>
      rw [commands_append delimiter, closedCommands_of_free (free_of_blank blank),
        command?_eq_none_iff.2 (List.all_eq_true.2 blank), ih]
      rfl
  | @text left right line text concurrent texts plain before after _ ih =>
      rw [commands_append (isDelimiter_closer concurrent),
        closedCommands_of_free (plain.free_padded before after),
        plain.command?_padded before after, closer_beq, ih]
      rfl
  | last plain before after =>
      rw [commands_eq_closedCommands, closedCommands_of_free (plain.free_padded before after),
        plain.command?_padded before after]
      rfl

/-- A stretch, closed by a mark, spells its command before whatever follows. -/
theorem spelling_cut {stretch line : List Char} {mark : Char} {texts : List (String × Bool)}
    (free : Free stretch) (delimiter : isDelimiter mark = true) (rest : Spelling texts line) :
    Spelling (((command? stretch mark).map fun command =>
      (command.text, command.concurrent)).toList ++ texts) (stretch ++ mark :: line) := by
  rcases made : command? stretch mark with _ | command
  · exact .skip (List.all_eq_true.1 (command?_eq_none_iff.1 made)) delimiter rest
  · obtain ⟨plain, _, concurrent, left, right, before, after, rfl⟩ :=
      (command?_eq_some_iff free).1 made
    have closes : mark = closer command.concurrent := by
      rw [isDelimiter, Bool.or_eq_true, beq_iff_eq, beq_iff_eq] at delimiter
      rcases delimiter with rfl | rfl <;> simp [concurrent, closer, sequentialMark, concurrentMark]
    rw [closes]
    exact .text plain before after rest

/-- Every line spells its own commands. -/
theorem spelling_commands (line : List Char) :
    Spelling ((commands line).map fun command => (command.text, command.concurrent)) line := by
  induction line using induction_on with
  | stretch stretch free =>
      rw [commands_eq_closedCommands, closedCommands_of_free free]
      rcases made : command? stretch sequentialMark with _ | command
      · exact .blank (List.all_eq_true.1 (command?_eq_none_iff.1 made))
      · obtain ⟨plain, _, concurrent, left, right, before, after, rfl⟩ :=
          (command?_eq_some_iff free).1 made
        have sequential : command.concurrent = false := concurrent
        rw [Option.toList_some, List.map_singleton, sequential]
        exact .last plain before after
  | cut stretch mark rest free delimiter ih =>
      rw [commands_append delimiter, closedCommands_of_free free, List.map_append]
      have spelled := spelling_cut free delimiter ih
      cases made : command? stretch mark <;> simpa [made] using spelled

theorem plain_of_mem {line : List Char} {command : Command} (inside : command ∈ commands line) :
    Plain command.text.toList ∧ command.words = wordsOf command.text := by
  obtain ⟨slice, _, holds⟩ := exists_holds inside
  exact ⟨holds.plain, holds.words⟩

/-- A line has the commands that it spells, and no line spells others. -/
theorem spelling_iff {texts : List (String × Bool)} {line : List Char} :
    Spelling texts line ↔
      commands line = texts.map fun entry => Command.ofText entry.1 entry.2 := by
  constructor
  · exact Spelling.commands_eq
  · intro same
    have spelling := spelling_commands line
    rw [same, List.map_map] at spelling
    simpa [Function.comp_def, Command.ofText] using spelling

/-- The plainest spelling of commands is one of their spellings. -/
theorem spelling_renderAll {commands : List Command}
    (plain : ∀ command ∈ commands, Plain command.text.toList) :
    Spelling (commands.map fun command => (command.text, command.concurrent))
      (Command.renderAll commands).toList := by
  rw [Command.renderAll, String.toList_join, List.flatMap_map]
  induction commands with
  | nil => exact .blank fun _ inside => absurd inside List.not_mem_nil
  | cons command rest ih =>
      have others := ih fun other inside => plain other (List.mem_cons_of_mem _ inside)
      have none : Text.Blank [] := fun _ inside => absurd inside List.not_mem_nil
      have spelled : Spelling ((command.text, command.concurrent) :: _) _ :=
        .text (plain command List.mem_cons_self) none none others
      rw [List.flatMap_cons, List.map_cons]
      cases mode : command.concurrent <;>
        simpa [Command.render, mode, closer, sequentialMark, concurrentMark] using spelled

/-- Writing commands on a line and reading them are inverse, whichever of the spellings is written:
every spelling of texts has their commands and every line is a spelling of its own, whose plainest
spelling has the same commands again. -/
theorem commands_of_spelling :
    (∀ (texts : List (String × Bool)) (line : String), Spelling texts line.toList ↔
      Command.ofLine line = texts.map fun entry => Command.ofText entry.1 entry.2) ∧
    (∀ line : String, ∀ command ∈ Command.ofLine line,
      Plain command.text.toList ∧ command.words = wordsOf command.text) ∧
    ∀ line : String,
      Command.ofLine (Command.renderAll (Command.ofLine line)) = Command.ofLine line := by
  refine ⟨fun texts line => spelling_iff, fun line command inside => plain_of_mem inside,
    fun line => ?_⟩
  have plain : ∀ command ∈ Command.ofLine line, Plain command.text.toList :=
    fun command inside => (plain_of_mem inside).1
  have same : ∀ command ∈ Command.ofLine line,
      Command.ofText command.text command.concurrent = command := by
    intro command inside
    rw [Command.ofText, ← (plain_of_mem inside).2]
  calc
    Command.ofLine (Command.renderAll (Command.ofLine line))
        = (Command.ofLine line).map
            fun command => Command.ofText command.text command.concurrent := by
      rw [Command.ofLine, (spelling_renderAll plain).commands_eq, List.map_map]
      rfl
    _ = Command.ofLine line := by rw [List.map_congr_left same, List.map_id']

/-- Empty slices and blanks around the texts leave two commands, the last one without a mark. -/
theorem commands_of_padded_spelling :
    Spelling [("a  b", true), ("c", false)] " ;& a  b\t& ;c\n".toList ∧
      Command.ofLine " ;& a  b\t& ;c\n" = [⟨"a  b", ["a", "b"], true⟩, ⟨"c", ["c"], false⟩] ∧
      Command.ofLine "a  b&c;" = Command.ofLine " ;& a  b\t& ;c\n" := by
  have blank (blanks : List Char) (all : blanks.all Text.isBlank = true) : Text.Blank blanks :=
    List.all_eq_true.1 all
  have rest : Spelling [("c", false)] ([' '] ++ ';' :: ([] ++ "c".toList ++ ['\n'])) :=
    .skip (blank _ rfl) rfl (.last (by decide) (blank _ rfl) (blank _ rfl))
  have spelling : Spelling [("a  b", true), ("c", false)] ([' '] ++ ';' :: ([] ++ '&' ::
      ([' '] ++ "a  b".toList ++ ['\t'] ++ closer true :: _))) :=
    .skip (blank _ rfl) rfl
      (.skip (blank _ rfl) rfl (.text (by decide) (blank _ rfl) (blank _ rfl) rest))
  have commands := (commands_of_spelling.1 _ " ;& a  b\t& ;c\n").1 spelling
  have again := commands_of_spelling.2.2 " ;& a  b\t& ;c\n"
  rw [commands] at again
  exact ⟨spelling, commands, again.trans commands.symm⟩

end Line

end CommandShell
