import CommandShell.Event
import CommandShell.Proofs.Text.Quoted

/-!
The messages of log records. `printable_message` says that a message is printable when the words in it
that are not quoted are, and `recalled_message` that what a message quotes is read back from it.
-/

namespace CommandShell

open Text (Printable printable_append printable_of_all)

/-- What a log record quotes: a text or the words of a request. -/
inductive Mention where
  | text (text : String)
  | words (words : List String)
  deriving DecidableEq, Repr

namespace Notice

/-- What a record quotes of a request: the text of a command, a program, or all words. -/
def mention? : Notice → Option Mention
  | .commandStarted _ _ text => some (.text text)
  | .commandFailed text => some (.text text)
  | .startRefused program _ => some (.text program)
  | .taskStarted _ words => some (.words words)
  | .taskCollected _ program => some (.text program)
  | .programFailed program _ => some (.text program)
  | _ => none

/-- What a record shows in the words of others. -/
def unquoted : Notice → List String
  | .shellOpened executor source => [executor, source]
  | .startRefused _ failure => [failure.message]
  | _ => []

/-- The characters that open what a record quotes. -/
def opens (char : Char) : Bool := char == '(' || char == '\'' || char == '"'

/-- Read back what is quoted at the front of a text. -/
def readMention (text : List Char) : Option Mention :=
  if text.head? = some '(' then (readTuple text).map .words
  else (Text.Quoted.readQuoted text).map fun read => .text (String.ofList read.1)

/-- Read back what a message quotes first. -/
def recalled (message : String) : Option Mention :=
  readMention (message.toList.dropWhile (!opens ·))

section Printable

theorem printable_truth (value : Bool) : Printable (truth value).toList := by
  cases value with
  | false => exact printable_of_all (by decide)
  | true => exact printable_of_all (by decide)

theorem printable_status (value? : Option Int) : Printable (status value?).toList := by
  cases value? with
  | none => exact printable_of_all (by decide)
  | some value => exact printable_toString value

/-- A message shows printable characters only, if what it shows unquoted does. -/
theorem printable_message {notice : Notice}
    (plain : ∀ text ∈ notice.unquoted, Printable text.toList) :
    Printable notice.message.toList := by
  unfold message
  cases notice with
  | shellOpened executor source =>
      have first := plain executor List.mem_cons_self
      have second := plain source (List.mem_cons_of_mem _ List.mem_cons_self)
      simp only [String.toList_append, printable_append]
      exact ⟨⟨⟨printable_of_all (by decide), first⟩, printable_of_all (by decide)⟩, second⟩
  | sessionStarted => exact printable_of_all (by decide)
  | sessionEnded atEnd =>
      simp only [String.toList_append, printable_append]
      exact ⟨printable_of_all (by decide), printable_truth atEnd⟩
  | commandStarted task concurrent text =>
      simp only [String.toList_append, printable_append]
      exact ⟨⟨⟨⟨⟨printable_of_all (by decide), printable_toString task⟩,
        printable_of_all (by decide)⟩, printable_truth concurrent⟩, printable_of_all (by decide)⟩,
        printable_quoted text⟩
  | commandFailed text =>
      simp only [String.toList_append, printable_append]
      exact ⟨printable_of_all (by decide), printable_quoted text⟩
  | waitMatched task =>
      simp only [String.toList_append, printable_append]
      exact ⟨printable_of_all (by decide), printable_toString task⟩
  | waitDiscarded pending got =>
      simp only [String.toList_append, printable_append]
      exact ⟨⟨⟨printable_of_all (by decide), printable_toString pending⟩,
        printable_of_all (by decide)⟩, printable_toString got⟩
  | emptyRefused => exact printable_of_all (by decide)
  | startRefused program failure =>
      have said := plain failure.message List.mem_cons_self
      simp only [String.toList_append, printable_append]
      exact ⟨⟨⟨printable_of_all (by decide), printable_quoted program⟩,
        printable_of_all (by decide)⟩, said⟩
  | taskStarted task words =>
      simp only [String.toList_append, printable_append]
      exact ⟨⟨⟨printable_of_all (by decide), printable_toString task⟩,
        printable_of_all (by decide)⟩, printable_quotedTuple words⟩
  | taskCollected task program =>
      simp only [String.toList_append, printable_append]
      exact ⟨⟨⟨printable_of_all (by decide), printable_toString task⟩,
        printable_of_all (by decide)⟩, printable_quoted program⟩
  | taskEnded task status? =>
      simp only [String.toList_append, printable_append]
      exact ⟨⟨⟨printable_of_all (by decide), printable_toString task⟩,
        printable_of_all (by decide)⟩, printable_status status?⟩
  | joinFailed task failure =>
      simp only [String.toList_append, printable_append]
      exact ⟨printable_of_all (by decide), printable_toString task⟩
  | programFailed program failure =>
      simp only [String.toList_append, printable_append]
      exact ⟨printable_of_all (by decide), printable_quoted program⟩

end Printable

section Recall

/-- No character of a text opens what a record quotes. -/
def Closed (text : String) : Prop := text.toList.all (!opens ·) = true

instance (text : String) : Decidable (Closed text) := inferInstanceAs (Decidable (_ = true))

theorem closed_append {first second : String} (one : Closed first) (two : Closed second) :
    Closed (first ++ second) := by
  rw [Closed, String.toList_append, List.all_append, one, two]
  rfl

theorem closed_toString (number : Int) : Closed (toString number) := by
  refine List.all_eq_true.2 fun char inside => ?_
  have other (opened : Char) (noDigit : opened.isDigit = false) (noSign : opened ≠ '-') :
      char ≠ opened := by
    rintro rfl
    rcases isDigit_or_of_mem_toString inside with digit | sign
    · exact absurd digit (by simp [noDigit])
    · exact noSign sign
  simp [opens, other '(' rfl (by decide), other '\'' rfl (by decide), other '"' rfl (by decide)]

theorem closed_truth (value : Bool) : Closed (truth value) := by
  cases value with
  | false => decide +kernel
  | true => decide +kernel

theorem dropWhile_closed {front : String} (closed : Closed front) {mark : Char} (opened : opens mark)
    (rest : List Char) : (front.toList ++ mark :: rest).dropWhile (!opens ·) = mark :: rest := by
  rw [List.dropWhile_append_of_pos (List.all_eq_true.1 closed), List.dropWhile_cons, opened]
  rfl

/-- A text that is quoted behind plain words is read back. -/
theorem recalled_quoted {front : String} (closed : Closed front) (text rest : String) :
    recalled (front ++ quoted text ++ rest) = some (.text text) := by
  have read := Text.Quoted.readQuoted_encode text.toList rest.toList
  have marks := Text.Quoted.mark_eq_or text.toList
  have written : (quoted text).toList = Text.Quoted.encode text.toList := String.toList_ofList
  rw [Text.Quoted.encode] at read written
  generalize Text.Quoted.mark text.toList = mark at read marks written
  have opened : opens mark = true := by
    rcases marks with rfl | rfl <;> rfl
  have single : mark ≠ '(' := by
    rcases marks with rfl | rfl <;> decide
  rw [recalled, String.toList_append, String.toList_append, List.append_assoc, written,
    List.cons_append, List.cons_append, dropWhile_closed closed opened, readMention,
    if_neg (by simpa using single), ← List.cons_append, ← List.cons_append, read]
  simp

/-- Words that are quoted behind plain words are read back. -/
theorem recalled_quotedTuple {front : String} (closed : Closed front) (words : List String) :
    recalled (front ++ quotedTuple words) = some (.words words) := by
  have opened : ∃ inner, (quotedTuple words).toList = '(' :: inner := by
    unfold quotedTuple
    split
    · exact ⟨_, by rw [String.toList_append, String.toList_append]; rfl⟩
    · exact ⟨_, by rw [String.toList_append, String.toList_append]; rfl⟩
  obtain ⟨inner, begins⟩ := opened
  have read := readTuple_quotedTuple words
  rw [begins] at read
  rw [recalled, String.toList_append, begins, dropWhile_closed closed rfl, readMention,
    List.head?_cons, if_pos rfl, read]
  rfl

/-- What a record quotes is read back from its message. -/
theorem recalled_message {notice : Notice} {mention : Mention}
    (mentioned : notice.mention? = some mention) : recalled notice.message = some mention := by
  unfold message
  cases notice with
  | commandStarted task concurrent text =>
      cases mentioned
      have numbered := closed_append
        (by decide +kernel : Closed "sequencer.dispatch task_id=") (closed_toString task)
      have marked := closed_append
        (closed_append numbered (by decide +kernel : Closed " concurrent=")) (closed_truth concurrent)
      have closed := closed_append marked (by decide +kernel : Closed " command=")
      simpa using recalled_quoted closed text ""
  | commandFailed text =>
      cases mentioned
      simpa using recalled_quoted (by decide +kernel) text ""
  | startRefused program failure =>
      cases mentioned
      have closed : Closed "executor.dispatch.failed program=" := by decide +kernel
      simpa [String.append_assoc] using
        recalled_quoted closed program (" error=" ++ failure.message)
  | taskStarted task words =>
      cases mentioned
      have numbered := closed_append
        (by decide +kernel : Closed "executor.dispatch task_id=") (closed_toString task)
      exact recalled_quotedTuple (closed_append numbered (by decide +kernel)) words
  | taskCollected task program =>
      cases mentioned
      have numbered := closed_append
        (by decide +kernel : Closed "executor.completed task_id=") (closed_toString task)
      have closed := closed_append numbered (by decide +kernel : Closed " program=")
      simpa using recalled_quoted closed program ""
  | programFailed program failure =>
      cases mentioned
      simpa using recalled_quoted (by decide +kernel) program ""
  | _ => cases mentioned

end Recall

end Notice

end CommandShell
