import CommandShell.LineSource
import CommandShell.Proofs.Text.Words

/-!
Reading a text stream. A line that a line feed closes is read without it, and the rest of the stream
stays to be read. What a source does when it is read does not depend on its answer.
-/

namespace CommandShell

namespace LineStream

/-- No character of a text ends a line. -/
def Unbroken (text : List Char) : Prop := ∀ char ∈ text, isLineEnd char = false

instance (text : List Char) : Decidable (Unbroken text) :=
  decidable_of_iff ((text.any isLineEnd) = false) (by simp [Unbroken])

variable {line rest : List Char}

theorem Unbroken.ne_feed (unbroken : Unbroken line) : ∀ char ∈ line, char ≠ '\n' := by
  rintro char inside rfl
  cases unbroken _ inside

theorem Unbroken.ne_return (unbroken : Unbroken line) : ∀ char ∈ line, char ≠ '\r' := by
  rintro char inside rfl
  cases unbroken _ inside

theorem unifyLineEnds_eq_self {text : List Char} (free : ∀ char ∈ text, char ≠ '\r') :
    unifyLineEnds text = text := by
  fun_induction unifyLineEnds text with
  | case1 rest => exact absurd rfl (free '\r' List.mem_cons_self)
  | case2 rest => exact absurd rfl (free '\r' List.mem_cons_self)
  | case3 char rest _ _ ih =>
      rw [ih fun other inside => free other (List.mem_cons_of_mem _ inside)]
  | case4 => rfl

theorem cutLine_feed (free : ∀ char ∈ line, char ≠ '\n') (rest : List Char) :
    cutLine (line ++ '\n' :: rest) = (line ++ ['\n'], rest) := by
  induction line with
  | nil => rfl
  | cons char line ih =>
      have others := ih fun other inside => free other (List.mem_cons_of_mem _ inside)
      rw [List.cons_append, cutLine, if_neg (free char List.mem_cons_self), others]
      rfl

theorem Unbroken.trimEnd_feed (unbroken : Unbroken line) :
    Text.trimEnd isLineEnd (line ++ ['\n']) = line := by
  have ends : ∀ char ∈ line.getLast?, isLineEnd char = false := by
    intro char last
    exact unbroken char (List.mem_of_mem_getLast? last)
  have feed : ∀ char ∈ ['\n'], isLineEnd char = true := by simp [isLineEnd]
  exact Text.trimEnd_append ends feed

/-- Whatever is read, the prompt is written first. -/
theorem read_events (prompt : String) (stream : LineStream) :
    (source.read prompt stream).events = [.deed (.write prompt), .deed .flush] := by
  by_cases empty : stream.rest.isEmpty
  · rcases failure : stream.failure? with _ | failure <;>
      simp [source, read, empty, failure]
  · simp [source, read, empty]

/-- A line is read up to the line feed after it. -/
theorem Unbroken.read_feed (unbroken : Unbroken line) (prompt : String) (rest : List Char)
    (failure? : Option Failure) :
    source.read prompt ⟨line ++ '\n' :: rest, failure?⟩ =
      ⟨.ok (some (String.ofList line)), ⟨rest, failure?⟩,
        [.deed (.write prompt), .deed .flush]⟩ := by
  have more : (line ++ '\n' :: rest).isEmpty = false := by simp
  simp [source, read, more, cutLine_feed unbroken.ne_feed rest, unbroken.trimEnd_feed]

/-- At the end of the text there is no line, and the prompt stands there all the same. -/
theorem read_nil (prompt : String) :
    source.read prompt ⟨[], none⟩ =
      ⟨.ok none, ⟨[], none⟩, [.deed (.write prompt), .deed .flush]⟩ := rfl

theorem toList_join_feeds (lines : List String) :
    (String.join (lines.map (· ++ "\n"))).toList = lines.flatMap (·.toList ++ ['\n']) := by
  rw [String.toList_join, List.flatMap_map]
  simp

theorem ne_return_of_mem_feeds {lines : List String}
    (unbroken : ∀ line ∈ lines, Unbroken line.toList) :
    ∀ char ∈ lines.flatMap (·.toList ++ ['\n']), char ≠ '\r' := by
  intro char inside
  obtain ⟨line, found, within⟩ := List.mem_flatMap.1 inside
  rcases List.mem_append.1 within with old | new
  · exact (unbroken line found).ne_return char old
  · rw [List.mem_singleton.1 new]
    decide

/-- Lines with their ends are the same text with and without other line ends. -/
theorem ofText_lines {lines : List String}
    (unbroken : ∀ line ∈ lines, Unbroken line.toList) (universal : Bool)
    (failure? : Option Failure) :
    ofText universal (String.join (lines.map (· ++ "\n"))) failure? =
      ⟨lines.flatMap (·.toList ++ ['\n']), failure?⟩ := by
  rw [ofText, toList_join_feeds, unifyLineEnds_eq_self (ne_return_of_mem_feeds unbroken), ite_self]

/-- A text of one line with its end. -/
theorem Unbroken.ofText_feed {line : String} (unbroken : Unbroken line.toList)
    (failure? : Option Failure) :
    ofText true (line ++ "\n") failure? = ⟨line.toList ++ ['\n'], failure?⟩ := by
  have single := @ofText_lines [line] (by simpa using unbroken) true failure?
  simpa using single

end LineStream

namespace Prompter

/-- Whatever is answered, the question is asked and nothing else happens. -/
theorem read_events (prompt : String) (prompter : Prompter) :
    (source.read prompt prompter).events = [.ask (question prompt) ""] := by
  simp only [source, read]
  split <;> rfl

end Prompter

end CommandShell
