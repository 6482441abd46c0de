import CommandShell.Step
import CommandShell.Text.Characters

/-!
Where lines come from: a text stream, an interactive prompt, or a script. Every source says none at
the end of its input.
-/

namespace CommandShell

/-- A source of lines over its states. `remaining` bounds how many lines can still come. -/
structure LineSource (State : Type) where
  /-- The next line, asked for with a prompt. -/
  read : String → Step State (Option String)
  remaining : State → Nat
  remaining_lt : ∀ {prompt : String} {state later : State} {line : String} {events : List Event},
    read prompt state = ⟨.ok (some line), later, events⟩ → remaining later < remaining state

/-- The part of a text stream that has not been read, and the failure, if any, that stands in for
its end. -/
structure LineStream where
  rest : List Char
  failure? : Option Failure

namespace LineStream

/-- Carriage returns become line feeds, and one before a line feed is dropped. -/
def unifyLineEnds : List Char → List Char
  | '\r' :: '\n' :: rest => '\n' :: unifyLineEnds rest
  | '\r' :: rest => '\n' :: unifyLineEnds rest
  | char :: rest => char :: unifyLineEnds rest
  | [] => []

/-- The stream that holds a text. -/
def ofText (universal : Bool) (text : String) (failure? : Option Failure) : LineStream :=
  ⟨if universal then unifyLineEnds text.toList else text.toList, failure?⟩

/-- The characters up to the first line feed, which is kept, and the characters after it. -/
def cutLine : List Char → List Char × List Char
  | [] => ([], [])
  | char :: rest =>
      if char = '\n' then ([char], rest) else (char :: (cutLine rest).1, (cutLine rest).2)

theorem cutLine_append (text : List Char) : (cutLine text).1 ++ (cutLine text).2 = text := by
  fun_induction cutLine text <;> simp_all

theorem cutLine_length_lt {text : List Char} (h : text ≠ []) :
    (cutLine text).2.length < text.length := by
  have whole := congrArg List.length (cutLine_append text)
  cases text with
  | nil => exact absurd rfl h
  | cons char rest =>
      have first : (cutLine (char :: rest)).1 ≠ [] := by
        by_cases feed : char = '\n' <;> simp [cutLine, feed]
      have := List.length_pos_iff.2 first
      simp at whole ⊢
      omega

/-- The end of a line is no part of it. -/
def isLineEnd (char : Char) : Bool := char == '\r' || char == '\n'

/-- Write the prompt and read up to the next line feed, or up to the end. A failure that stands in for
the end is met by the reading after the last line. A stream that fails while it looks for a line feed
would keep back what it has of that line. -/
def read (prompt : String) : Step LineStream (Option String) := fun stream =>
  let events := [.deed (.write prompt), .deed .flush]
  if stream.rest.isEmpty then
    match stream.failure? with
    | some failure => ⟨.error failure, stream, events⟩
    | none => ⟨.ok none, stream, events⟩
  else
    let line := Text.trimEnd isLineEnd (cutLine stream.rest).1
    ⟨.ok (some (String.ofList line)), { stream with rest := (cutLine stream.rest).2 }, events⟩

/-- Lines from a text stream. -/
def source : LineSource LineStream where
  read := read
  remaining stream := stream.rest.length
  remaining_lt {prompt state later line events} h := by
    unfold read at h
    by_cases empty : state.rest.isEmpty
    · simp only [empty, ↓reduceIte] at h
      split at h <;> simp at h
    · simp only [empty] at h
      injection h with _ state' _
      subst state'
      exact cutLine_length_lt (by simpa using empty)

end LineStream

/-- The answers that an interactive prompt will get; none is a cancelled question. -/
structure Prompter where
  answers : List (Except Failure (Option String))

namespace Prompter

/-- An interactive prompt needs a terminal first, and then the package that draws it. -/
def open? (terminal installed : Bool) (answers : List (Except Failure (Option String))) :
    Except Failure Prompter :=
  if !terminal then .error .noTerminal
  else if !installed then .error .promptMissing
  else .ok ⟨answers⟩

/-- The question is the prompt without the blanks at its end. -/
def question (prompt : String) : String :=
  String.ofList (Text.trimEnd Text.isBlank prompt.toList)

/-- Ask for a line. A closed input counts as a cancelled question. -/
def read (prompt : String) : Step Prompter (Option String) := fun prompter =>
  let events := [.ask (question prompt) ""]
  match prompter.answers with
  | [] => ⟨.ok none, prompter, events⟩
  | .error (.inputEnded _) :: rest => ⟨.ok none, ⟨rest⟩, events⟩
  | answer :: rest => ⟨answer, ⟨rest⟩, events⟩

/-- Lines from an interactive prompt. -/
def source : LineSource Prompter where
  read := read
  remaining prompter := prompter.answers.length
  remaining_lt {prompt state later line events} h := by
    unfold read at h
    split at h <;> simp_all
    rcases h with ⟨_, rfl, _⟩
    simp

end Prompter

/-- Lines laid down in advance. -/
structure LineScript where
  lines : List (Except Failure (Option String))

namespace LineScript

/-- The next line of the script. -/
def read (prompt : String) : Step LineScript (Option String) := fun script =>
  match script.lines with
  | [] => ⟨.error (.scriptEnded "read_line"), script, [.prompt prompt]⟩
  | line :: rest => ⟨line, ⟨rest⟩, [.prompt prompt]⟩

/-- Lines from a script. -/
def source : LineSource LineScript where
  read := read
  remaining script := script.lines.length
  remaining_lt {prompt state later line events} h := by
    unfold read at h
    split at h <;> simp_all
    rcases h with ⟨_, rfl, _⟩
    simp

end LineScript

end CommandShell
