import CommandShell.Text.Characters

/-!
A text as the list of its words. `words_cons_blank` and `words_append_blank` say that a blank ends
a word and is no part of one.
-/

namespace CommandShell.Text

/-- The words of a text when the characters of `word` have been read of the first one. -/
def wordsFrom (word : List Char) : List Char → List (List Char)
  | [] => if word.isEmpty then [] else [word]
  | char :: rest =>
      if isBlank char then
        if word.isEmpty then wordsFrom [] rest else word :: wordsFrom [] rest
      else wordsFrom (word ++ [char]) rest

/-- The words are the longest stretches without a blank. -/
def words (text : List Char) : List (List Char) := wordsFrom [] text

@[simp] theorem words_nil : words [] = [] := rfl

theorem words_cons_blank {char : Char} (h : isBlank char = true) (rest : List Char) :
    words (char :: rest) = words rest := by simp [words, wordsFrom, h]

theorem wordsFrom_append_blank {blank : Char} (h : isBlank blank = true)
    (word first second : List Char) :
    wordsFrom word (first ++ blank :: second) = wordsFrom word first ++ words second := by
  induction first generalizing word with
  | nil => by_cases empty : word.isEmpty <;> simp [wordsFrom, words, h, empty]
  | cons char rest hypothesis =>
      by_cases blank' : isBlank char <;> by_cases empty : word.isEmpty <;>
        simp [wordsFrom, blank', empty, hypothesis]

theorem words_append_blank {blank : Char} (h : isBlank blank = true) (first second : List Char) :
    words (first ++ blank :: second) = words first ++ words second :=
  wordsFrom_append_blank h [] first second

end CommandShell.Text

namespace CommandShell

/-- The words of a string. -/
def wordsOf (text : String) : List String := (Text.words text.toList).map String.ofList

end CommandShell
