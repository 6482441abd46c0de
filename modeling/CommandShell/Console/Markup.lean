import CommandShell.Console.Action
import CommandShell.Console.Emoji
import CommandShell.Console.Layout
import CommandShell.Console.Style

/-!
Markup: style tags between square brackets. A tag opens a style or closes one that is open, and only
the text between the tags is shown.
-/

namespace CommandShell.Markup

/-- A piece of markup: plain text, or a tag with the place where it starts. -/
inductive Token where
  | plain (text : List Char)
  | tag (place : Nat) (text : List Char)
  deriving DecidableEq, Repr

/-- The characters before the closing bracket and after it; another opening bracket comes first in
no tag. -/
def cutTag? : List Char → Option (List Char × List Char)
  | [] => none
  | char :: rest =>
      if char = ']' then some ([], rest)
      else if char = '[' then none
      else (cutTag? rest).map fun cut => (char :: cut.1, cut.2)

theorem cutTag?_length_lt {text tag after : List Char} (h : cutTag? text = some (tag, after)) :
    after.length < text.length := by
  induction text generalizing tag with
  | nil => simp [cutTag?] at h
  | cons char rest hypothesis =>
      unfold cutTag? at h
      split at h
      · injection h with h
        injection h with _ same
        subst same
        simp
      · split at h
        · simp at h
        · obtain ⟨⟨inner, remaining⟩, found, same⟩ := Option.map_eq_some_iff.1 h
          injection same with _ same
          subst same
          exact Nat.lt_succ_of_lt (hypothesis found)

/-- A tag starts with a small letter, a slash, or the sign of a colour or an action. -/
def startsTag (text : List Char) : Bool :=
  match text with
  | [] => false
  | char :: _ => decide ('a' ≤ char ∧ char ≤ 'z') || ['#', '/', '@'].contains char

/-- The tag after an opening bracket, and what follows it. -/
def tag? (text : List Char) : Option (List Char × List Char) :=
  if startsTag text then cutTag? text else none

/-- Plain text as a token, unless it is empty. -/
def plain (text : List Char) : List Token := if text.isEmpty then [] else [.plain text]

/-- A backslash before an opening bracket that starts no tag is not shown. -/
def openBracket (slashes : Nat) : List Char := List.replicate (slashes - 1) '\\' ++ ['[']

/-- The tokens of a text at a place, after plain text and backslashes that were read already. Two
backslashes before a tag stand for one, and a single one makes the tag plain text. -/
def tokensFrom (place : Nat) (read : List Char) (slashes : Nat) (text : List Char) : List Token :=
  match text with
  | [] => plain (read ++ List.replicate slashes '\\')
  | '\\' :: rest => tokensFrom (place + 1) read (slashes + 1) rest
  | '[' :: rest =>
      match _cut : tag? rest with
      | none => tokensFrom (place + 1) (read ++ openBracket slashes) 0 rest
      | some (tag, after) =>
          let next := tokensFrom (place + tag.length + 2) [] 0 after
          let kept := plain read ++ plain (List.replicate (slashes / 2) '\\')
          if slashes % 2 = 1 then kept ++ .plain ('[' :: tag ++ [']']) :: next
          else kept ++ .tag place tag :: next
  | char :: rest => tokensFrom (place + 1) (read ++ List.replicate slashes '\\' ++ [char]) 0 rest
termination_by text.length
decreasing_by
  · simp
  · simp
  · unfold tag? at _cut
    split at _cut
    · have := cutTag?_length_lt _cut
      simp
      omega
    · simp at _cut
  · simp

/-- The tokens of a whole text. -/
def tokens (text : List Char) : List Token := tokensFrom 0 [] 0 text

/-- A part of a text, and the style that it has. -/
structure Span where
  start : Nat
  finish : Nat
  style : String
  deriving DecidableEq, Repr

/-- An open tag: the normal form of its style, what stands after its first equals sign, and the place in the
shown text where it was opened. -/
structure Tag where
  style : String
  parameters? : Option (List Char)
  start : Nat
  deriving DecidableEq, Repr

/-- The name of a tag is what stands before its first equals sign. -/
def tagName (tag : List Char) : List Char := tag.takeWhile (· ≠ '=')

/-- What stands after the first equals sign of a tag. -/
def parameters? (tag : List Char) : Option (List Char) :=
  match tag.dropWhile (· ≠ '=') with
  | [] => none
  | _ :: parameters => some parameters

/-- The part between a tag and the place where it ends. Parameters are words of its style. -/
def Tag.span (tag : Tag) (finish : Nat) : Span where
  start := tag.start
  finish := finish
  style := match tag.parameters? with
    | none => tag.style
    | some parameters => tag.style ++ " " ++ String.ofList parameters

/-- The parts with a style that a tag leaves when it is closed. A tag with the sign of an action has no style,
and it must have a value for its parameters. -/
def Tag.close (tag : Tag) (place : Nat) : Except Failure (List Span) :=
  match tag.style.toList, tag.parameters? with
  | '@' :: _, some (first :: rest) =>
      let value := Action.valueText (Text.trim Text.isBlank (first :: rest))
      let parameters := String.ofList (first :: rest)
      match Action.problem? value with
      | none => .ok []
      | some (.flaw flaw) =>
          .error (.malformedAction (some (String.ofList value)) parameters flaw.message)
      | some problem => .error (.malformedAction none parameters problem.message)
  | '@' :: _, _ => .ok []
  | _, _ => .ok [tag.span place]

/-- Close a tag: the innermost open one, or the innermost one with the style that is named. The
answer is what the closed one leaves, and what stays open. -/
def closeTag (source place : Nat) (tag : List Char) (opened : List Tag) :
    Except Failure (List Span × List Tag) := do
  let name := Text.trim Text.isBlank ((tagName tag).drop 1)
  if name.isEmpty then
    match opened with
    | [] => throw (.nothingToClose source)
    | innermost :: outer => return (← innermost.close place, outer)
  else
    let style ← Style.normalForm (String.ofList name)
    match opened.find? (·.style == style) with
    | none => throw (.unmatchedTag (String.ofList tag) source)
    | some closed => return (← closed.close place, opened.eraseP (·.style == style))

/-- Open a tag. -/
def openTag (place : Nat) (tag : List Char) (opened : List Tag) : Except Failure (List Tag) := do
  return ⟨← Style.normalForm (String.ofList (tagName tag)), parameters? tag, place⟩ :: opened

/-- The characters that are not shown. -/
def isHidden (char : Char) : Bool := [7, 8, 11, 12, 13].contains char.toNat

/-- A text as it is shown, before its lines are laid out. -/
def visible (text : List Char) : List Char := (Emoji.replace text).filter (!isHidden ·)

/-- A text without its tags, and the parts of it that have a style. -/
structure StyledText where
  text : List Char
  spans : List Span
  deriving DecidableEq, Repr

/-- The text between tags, when every closing tag closes an open one. The innermost open tag is the
first of `opened`, and `place` is the length of the text before. -/
def styledFrom (opened : List Tag) (place : Nat) : List Token → Except Failure StyledText
  | [] => .ok ⟨[], opened.map (·.span place)⟩
  | .plain text :: rest => do
      let text := visible text
      let next ← styledFrom opened (place + text.length) rest
      return { next with text := text ++ next.text }
  | .tag source tag :: rest => do
      if tag.head? = some '/' then
        let (spans, opened) ← closeTag source place tag opened
        let next ← styledFrom opened place rest
        return { next with spans := spans ++ next.spans }
      else styledFrom (← openTag place tag opened) place rest

/-- The text that markup shows. Its parts are in the order of their starts, and of two with the same start the
one that ends a tag later comes first. -/
def styled (markup : List Char) : Except Failure StyledText := do
  let found ← styledFrom [] 0 (tokens markup)
  return { found with spans := found.spans.reverse.mergeSort fun left right => left.start ≤ right.start }

namespace StyledText

/-- The failure of the first style that is needed to show the text. -/
def failure? (styled : StyledText) (overflow : Layout.Overflow) (width : Nat) : Option Failure :=
  styled.spans.findSome? fun span => (Style.failure? span.style).filter fun _ =>
    Layout.shows overflow width styled.text span.start span.finish

/-- The lines of the text in a width. -/
def paragraph (styled : StyledText) (overflow : Layout.Overflow) (width : Nat) :
    Except Failure (List (List Char)) :=
  match styled.failure? overflow width with
  | some failure => .error failure
  | none => .ok (Layout.paragraph overflow width styled.text)

end StyledText

end CommandShell.Markup
