import CommandShell.Proofs.Line.Slice
import CommandShell.Proofs.Text.Words

/-!
The words of a line as its slices between blanks. `words_eq_wordSlices` says that they are the slices
that are not empty, and `wordsOf_law` what follows for the words of any text.
-/

namespace CommandShell

namespace Line

/-- A word stands on a maximal stretch without blanks that is not empty. -/
def Slice.IsWord (line : List Char) (slice : Slice) : Prop :=
  slice.stretch ≠ [] ∧ slice.Maximal Text.isBlank line

/-- The slices of a line that words stand on, in order. -/
def wordSlices (line : List Char) : List Slice :=
  (slices Text.isBlank line).filter fun slice => !slice.stretch.isEmpty

theorem mem_wordSlices_iff {line : List Char} {slice : Slice} :
    slice ∈ wordSlices line ↔ slice.IsWord line := by
  rw [wordSlices, List.mem_filter, mem_slices_iff, Slice.IsWord, and_comm]
  simp

theorem wordSlices_sorted (line : List Char) :
    (wordSlices line).Pairwise fun first second => first.before.length < second.before.length :=
  (slices_sorted Text.isBlank line).filter _

theorem wordsFrom_eq_slicesFrom (before word rest : List Char) :
    Text.wordsFrom word rest = ((slicesFrom Text.isBlank before word rest).filter
      fun slice => !slice.stretch.isEmpty).map Slice.stretch := by
  induction rest generalizing before word with
  | nil => by_cases empty : word.isEmpty <;> simp [Text.wordsFrom, slicesFrom, empty]
  | cons char rest ih =>
      by_cases blank : Text.isBlank char
      · have others := ih (before ++ word ++ [char]) []
        by_cases empty : word.isEmpty <;> simp [Text.wordsFrom, slicesFrom, blank, empty, others]
      · rw [Text.wordsFrom, if_neg blank, slicesFrom, if_neg blank]
        exact ih before (word ++ [char])

/-- One pass over a text finds its words where they stand. -/
theorem words_eq_wordSlices (line : List Char) :
    Text.words line = (wordSlices line).map Slice.stretch :=
  wordsFrom_eq_slicesFrom [] [] line

end Line

section Strings

variable {text word : String}

theorem solid_of_mem_wordsOf (inside : word ∈ wordsOf text) : Text.Solid word.toList := by
  obtain ⟨chars, member, rfl⟩ := List.mem_map.1 inside
  rw [String.toList_ofList]
  exact ⟨Text.ne_nil_of_mem_words member, fun _ among => Text.isBlank_of_mem_words member among⟩

theorem join_wordsOf (text : String) : String.join (wordsOf text) =
    String.ofList (text.toList.filter fun char => !Text.isBlank char) := by
  rw [← String.toList_inj, String.toList_join, String.toList_ofList, ← Text.flatten_words, wordsOf,
    List.flatMap_map]
  simp only [String.toList_ofList, List.flatMap_id']

theorem wordsOf_eq_nil_iff : wordsOf text = [] ↔ Text.Blank text.toList := by
  rw [wordsOf, List.map_eq_nil_iff, Text.words_eq_nil_iff]

theorem wordsOf_trim (text : String) :
    wordsOf (String.ofList (Text.trim Text.isBlank text.toList)) = wordsOf text := by
  rw [wordsOf, String.toList_ofList, Text.words_trim, wordsOf]

/-- Blanks between two texts keep their words apart. -/
theorem wordsOf_append_append {blanks : String} (nonempty : blanks ≠ "")
    (blank : Text.Blank blanks.toList) (first second : String) :
    wordsOf (first ++ blanks ++ second) = wordsOf first ++ wordsOf second := by
  have nonempty' : blanks.toList ≠ [] := by simpa using nonempty
  rw [wordsOf, String.toList_append, String.toList_append,
    Text.words_append_append nonempty' blank, List.map_append, wordsOf, wordsOf]

theorem wordsOf_intercalate {blanks : String} (nonempty : blanks ≠ "")
    (blank : Text.Blank blanks.toList) {words : List String}
    (solid : ∀ word ∈ words, Text.Solid word.toList) :
    wordsOf (blanks.intercalate words) = words := by
  have nonempty' : blanks.toList ≠ [] := by simpa using nonempty
  have solid' : ∀ chars ∈ words.map String.toList, Text.Solid chars := by simpa using solid
  rw [wordsOf, String.toList_intercalate, Text.words_intercalate nonempty' blank solid',
    List.map_map]
  simp [Function.comp_def]

/-- The words of a text are its maximal stretches without white space, in order: they hold all else of
the text, and only a blank text has none. Which white space separates them does not matter, nor how
much of it, nor what of it stands at the ends. A text cut at a blank has the words of both parts, and
words joined by single spaces are found again. -/
theorem wordsOf_law :
    (∀ text : String, ∃ runs : List Line.Slice,
      (∀ slice, slice ∈ runs ↔ slice.IsWord text.toList) ∧
        runs.Pairwise (fun first second => first.before.length < second.before.length) ∧
        wordsOf text = runs.map fun run => String.ofList run.stretch) ∧
    (∀ char, Text.isBlank char = true ↔ char ∈ Text.whitespace) ∧
    (∀ text : String,
      (∀ word ∈ wordsOf text, word ≠ "" ∧ ∀ char ∈ word.toList, Text.isBlank char = false) ∧
        String.join (wordsOf text) =
          String.ofList (text.toList.filter fun char => !Text.isBlank char) ∧
        (wordsOf text = [] ↔ Text.Blank text.toList) ∧
        wordsOf (String.ofList (Text.trim Text.isBlank text.toList)) = wordsOf text) ∧
    (∀ first second blanks others : String, blanks ≠ "" → others ≠ "" →
      Text.Blank blanks.toList → Text.Blank others.toList →
        wordsOf (first ++ blanks ++ second) = wordsOf (first ++ others ++ second)) ∧
    (∀ (first second : String) (blank : Char), Text.isBlank blank = true →
      wordsOf (first ++ String.singleton blank ++ second) = wordsOf first ++ wordsOf second) ∧
    ∀ words : List String,
      (∀ word ∈ words, word ≠ "" ∧ ∀ char ∈ word.toList, Text.isBlank char = false) →
        wordsOf (" ".intercalate words) = words := by
  have solid (word : String) : Text.Solid word.toList ↔
      word ≠ "" ∧ ∀ char ∈ word.toList, Text.isBlank char = false := by
    rw [Text.Solid, ne_eq, String.toList_eq_nil_iff]
  refine ⟨fun text => ⟨Line.wordSlices text.toList, fun slice => Line.mem_wordSlices_iff,
    Line.wordSlices_sorted _, ?_⟩, fun char => Text.isBlank_iff_mem_whitespace,
    fun text => ⟨fun word inside => (solid word).1 (solid_of_mem_wordsOf inside),
      join_wordsOf text, wordsOf_eq_nil_iff, wordsOf_trim text⟩, ?_, ?_, ?_⟩
  · rw [wordsOf, Line.words_eq_wordSlices, List.map_map]
    rfl
  · intro first second blanks others nonempty nonempty' blank blank'
    rw [wordsOf_append_append nonempty blank, wordsOf_append_append nonempty' blank']
  · intro first second blank isBlank
    have single : Text.Blank (String.singleton blank).toList := by
      simpa [Text.Blank] using isBlank
    exact wordsOf_append_append (by simp) single first second
  · intro words all
    have space : Text.Blank " ".toList := by
      rintro char (_ | ⟨_, ⟨⟩⟩)
      rfl
    exact wordsOf_intercalate (by simp) space fun word inside => (solid word).2 (all word inside)

/-- A tab is as good as a line end and a line separator, a unit separator is white space where a space
without width is none, and words that look empty are found between spaces. -/
theorem wordsOf_law_mixed :
    Text.Blank "\t".toList ∧ Text.Blank "\r\n\u2028".toList ∧ Text.isBlank '\x1F' = true ∧
      wordsOf ("\u2003a" ++ "\t" ++ "b ") = wordsOf ("\u2003a" ++ "\r\n\u2028" ++ "b ") ∧
      wordsOf ("a\u3000" ++ String.singleton '\x1F' ++ "b\u200B") = ["a", "b\u200B"] ∧
      wordsOf (" ".intercalate ["\u200B", "a", "\uFEFF"]) = ["\u200B", "a", "\uFEFF"] := by
  obtain ⟨_, _, _, respaced, cut, joined⟩ := wordsOf_law
  have tab : Text.Blank "\t".toList := List.all_eq_true.1 rfl
  have ends : Text.Blank "\r\n\u2028".toList := List.all_eq_true.1 rfl
  have parts := cut "a\u3000" "b\u200B" '\x1F' rfl
  have solid : (["\u200B", "a", "\uFEFF"].all fun word =>
      word != "" && word.toList.all fun char => !Text.isBlank char) = true := by decide
  refine ⟨tab, ends, rfl, respaced _ _ _ _ (by decide) (by decide) tab ends,
    parts.trans (by decide), joined _ fun word inside => ?_⟩
  simpa using List.all_eq_true.1 solid word inside

end Strings

end CommandShell
