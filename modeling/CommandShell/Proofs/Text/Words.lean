import CommandShell.Text.Words
import Mathlib.Data.List.DropRight
import Mathlib.Data.List.TakeWhile

/-!
What stands between blanks, which are the white space of Unicode. `exists_eq_append_trim` and
`trim_trimmed` say that trimming takes away a text's outer characters to drop and nothing else,
`flatten_words` and `isBlank_of_mem_words` that words are what blanks separate, and
`words_append_append` that it does not matter which blanks and how many.
-/

namespace CommandShell.Text

section Blanks

/-- The space separators: general category `Zs`. -/
def spaceSeparators : List Char :=
  [' ', '\u00A0', '\u1680', '\u2000', '\u2001', '\u2002', '\u2003', '\u2004', '\u2005', '\u2006',
    '\u2007', '\u2008', '\u2009', '\u200A', '\u202F', '\u205F', '\u3000']

/-- White space: bidirectional class `WS`. -/
def neutralSpaces : List Char :=
  ['\x0C', ' ', '\u1680', '\u2000', '\u2001', '\u2002', '\u2003', '\u2004', '\u2005', '\u2006',
    '\u2007', '\u2008', '\u2009', '\u200A', '\u2028', '\u205F', '\u3000']

/-- Paragraph separators: bidirectional class `B`. -/
def paragraphSeparators : List Char :=
  ['\n', '\r', '\x1C', '\x1D', '\x1E', '\u0085', '\u2029']

/-- Segment separators: bidirectional class `S`. -/
def segmentSeparators : List Char := ['\t', '\x0B', '\x1F']

/-- The characters that one of these classes of Unicode makes white space. -/
def whitespace : List Char :=
  spaceSeparators ++ neutralSpaces ++ paragraphSeparators ++ segmentSeparators

theorem covers_iff {table : List (Nat × Nat)} {code : Nat} :
    covers table code = true ↔ code ∈ table.flatMap fun range =>
      List.range' range.1 (range.2 + 1 - range.1) := by
  simp only [covers, List.any_eq_true, decide_eq_true_eq, List.mem_flatMap, List.mem_range'_1]
  refine exists_congr fun range => and_congr_right fun _ => ?_
  omega

/-- The blanks are the white space of Unicode. -/
theorem isBlank_iff_mem_whitespace {char : Char} : isBlank char = true ↔ char ∈ whitespace := by
  constructor
  · intro blank
    have listed : ∀ code ∈ blanks.flatMap (fun range =>
        List.range' range.1 (range.2 + 1 - range.1)), Char.ofNat code ∈ whitespace := by decide
    have member := listed char.toNat (covers_iff.1 blank)
    rwa [Char.ofNat_toNat] at member
  · intro member
    have listed : (whitespace.all isBlank) = true := by decide
    exact List.all_eq_true.1 listed char member

end Blanks

section Trim

variable {drop : Char → Bool} {text core left right rest : List Char}

/-- A text that neither starts nor ends with a character to drop. -/
structure Trimmed (drop : Char → Bool) (text : List Char) : Prop where
  starts : ∀ char ∈ text.head?, drop char = false
  ends : ∀ char ∈ text.getLast?, drop char = false

theorem trimStart_append (dropped : ∀ char ∈ left, drop char = true) (rest : List Char) :
    trimStart drop (left ++ rest) = trimStart drop rest := by
  induction left with
  | nil => rfl
  | cons char left ih =>
      have others := ih fun other inside => dropped other (List.mem_cons_of_mem _ inside)
      rw [← others, List.cons_append, trimStart,
        List.dropWhile_cons_of_pos (dropped char List.mem_cons_self)]
      rfl

theorem trimStart_eq_self (starts : ∀ char ∈ text.head?, drop char = false) :
    trimStart drop text = text := by
  cases text with
  | nil => rfl
  | cons char rest =>
      have kept : ¬ drop char = true := by simpa using starts
      rw [trimStart, List.dropWhile_cons_of_neg kept]

theorem trimEnd_eq_reverse (drop : Char → Bool) (text : List Char) :
    trimEnd drop text = (trimStart drop text.reverse).reverse := rfl

theorem trimEnd_append (ends : ∀ char ∈ core.getLast?, drop char = false)
    (dropped : ∀ char ∈ right, drop char = true) : trimEnd drop (core ++ right) = core := by
  have reversed : ∀ char ∈ right.reverse, drop char = true := by simpa using dropped
  have starts : ∀ char ∈ core.reverse.head?, drop char = false := by
    rw [List.head?_reverse]
    exact ends
  rw [trimEnd_eq_reverse, List.reverse_append, trimStart_append reversed, trimStart_eq_self starts,
    List.reverse_reverse]

/-- Only the outer characters to drop are taken away. -/
theorem trim_append_append (dropped : ∀ char ∈ left, drop char = true)
    (dropped' : ∀ char ∈ right, drop char = true) (trimmed : Trimmed drop core) :
    trim drop (left ++ core ++ right) = core := by
  rw [trim, List.append_assoc, trimStart_append dropped]
  rcases core with _ | ⟨char, rest⟩
  · have gone : trimStart drop right = [] := List.dropWhile_eq_nil_iff.2 dropped'
    rw [List.nil_append, gone]
    rfl
  · have starts : ∀ other ∈ (char :: rest ++ right).head?, drop other = false := by
      simpa using trimmed.starts
    rw [trimStart_eq_self starts, trimEnd_append trimmed.ends dropped']

theorem trim_trimmed (drop : Char → Bool) (text : List Char) : Trimmed drop (trim drop text) := by
  have shape : trim drop text = (text.dropWhile drop).rdropWhile drop := rfl
  constructor
  · intro char first
    obtain ⟨back, whole⟩ := List.rdropWhile_prefix drop (l := text.dropWhile drop)
    rw [← shape] at whole
    have first' : (text.dropWhile drop).head? = some char := by
      rw [← whole, List.head?_append, Option.mem_def.1 first]
      rfl
    have kept := List.head?_dropWhile_not drop text
    rw [first'] at kept
    exact kept
  · intro char last
    rw [shape] at last
    have nonempty : (text.dropWhile drop).rdropWhile drop ≠ [] := by
      intro empty
      simp [empty] at last
    have kept := List.rdropWhile_last_not drop _ nonempty
    rw [Option.mem_def, List.getLast?_eq_some_getLast nonempty, Option.some.injEq] at last
    simpa [last] using kept

/-- Around what trimming leaves there are only characters to drop. -/
theorem exists_eq_append_trim (drop : Char → Bool) (text : List Char) :
    ∃ left right, (∀ char ∈ left, drop char = true) ∧ (∀ char ∈ right, drop char = true) ∧
      text = left ++ trim drop text ++ right := by
  refine ⟨text.takeWhile drop, (text.dropWhile drop).rtakeWhile drop,
    fun char inside => List.mem_takeWhile_imp inside,
    fun char inside => List.mem_rtakeWhile_imp inside, ?_⟩
  have shape : trim drop text = (text.dropWhile drop).rdropWhile drop := rfl
  rw [shape, List.append_assoc, List.rdropWhile_append_rtakeWhile,
    List.takeWhile_append_dropWhile]

theorem mem_of_mem_trim {char : Char} (inside : char ∈ trim drop text) : char ∈ text := by
  obtain ⟨left, right, _, _, whole⟩ := exists_eq_append_trim drop text
  rw [whole]
  simp [inside]

end Trim

section Words

/-- Every character of a text is blank. -/
abbrev Blank (text : List Char) : Prop := ∀ char ∈ text, isBlank char = true

variable {text word : List Char} {char : Char}

theorem flatten_wordsFrom (word text : List Char) :
    (wordsFrom word text).flatten = word ++ text.filter fun char => !isBlank char := by
  induction text generalizing word with
  | nil => by_cases empty : word = [] <;> simp [wordsFrom, empty]
  | cons char rest ih =>
      by_cases blank : isBlank char
      · by_cases empty : word = [] <;> simp [wordsFrom, blank, empty, ih]
      · simp [wordsFrom, blank, ih]

/-- The words hold every character of a text but its blanks, in order. -/
theorem flatten_words (text : List Char) :
    (words text).flatten = text.filter fun char => !isBlank char :=
  flatten_wordsFrom [] text

theorem mem_wordsFrom {start : List Char} (free : ∀ char ∈ start, isBlank char = false)
    (inside : word ∈ wordsFrom start text) :
    word ≠ [] ∧ ∀ char ∈ word, isBlank char = false := by
  induction text generalizing start with
  | nil =>
      by_cases empty : start = []
      · simp [wordsFrom, empty] at inside
      · obtain rfl : word = start := by simpa [wordsFrom, empty] using inside
        exact ⟨empty, free⟩
  | cons char rest ih =>
      have nothing : ∀ char ∈ ([] : List Char), isBlank char = false := by simp
      by_cases blank : isBlank char
      · by_cases empty : start = []
        · exact ih nothing (by simpa [wordsFrom, blank, empty] using inside)
        · have cut : word = start ∨ word ∈ wordsFrom [] rest := by
            simpa [wordsFrom, blank, empty] using inside
          rcases cut with rfl | later
          · exact ⟨empty, free⟩
          · exact ih nothing later
      · refine ih ?_ (by simpa [wordsFrom, blank] using inside)
        intro other member
        rcases List.mem_append.1 member with old | new
        · exact free other old
        · rw [List.mem_singleton.1 new]
          simpa using blank

theorem ne_nil_of_mem_words (inside : word ∈ words text) : word ≠ [] :=
  (mem_wordsFrom (by simp) inside).1

theorem isBlank_of_mem_words (inside : word ∈ words text) (member : char ∈ word) :
    isBlank char = false :=
  (mem_wordsFrom (by simp) inside).2 char member

theorem mem_of_mem_words (inside : word ∈ words text) (member : char ∈ word) : char ∈ text := by
  have flat : char ∈ (words text).flatten := List.mem_flatten.2 ⟨word, inside, member⟩
  rw [flatten_words] at flat
  exact List.mem_of_mem_filter flat

theorem words_eq_nil_iff : words text = [] ↔ Blank text := by
  constructor
  · intro none
    have flat := flatten_words text
    rw [none, List.flatten_nil, eq_comm, List.filter_eq_nil_iff] at flat
    simpa using flat
  · intro blank
    rw [List.eq_nil_iff_forall_not_mem]
    intro word inside
    obtain ⟨char, member⟩ := List.exists_mem_of_ne_nil word (ne_nil_of_mem_words inside)
    have kept := isBlank_of_mem_words inside member
    rw [blank char (mem_of_mem_words inside member)] at kept
    cases kept

variable {blanks : List Char}

theorem words_blank_append (blank : Blank blanks) (text : List Char) :
    words (blanks ++ text) = words text := by
  induction blanks with
  | nil => rfl
  | cons char rest ih =>
      have others := ih fun other inside => blank other (List.mem_cons_of_mem _ inside)
      rw [List.cons_append, words_cons_blank (blank char List.mem_cons_self), others]

/-- Any number of blanks separates words like one. -/
theorem words_append_append (nonempty : blanks ≠ []) (blank : Blank blanks)
    (first second : List Char) : words (first ++ blanks ++ second) = words first ++ words second := by
  obtain ⟨char, rest, rfl⟩ := List.exists_cons_of_ne_nil nonempty
  have others : Blank rest := fun other inside => blank other (List.mem_cons_of_mem _ inside)
  rw [List.append_assoc, List.cons_append, words_append_blank (blank char List.mem_cons_self),
    words_blank_append others]

theorem words_append_of_blank (blank : Blank blanks) (text : List Char) :
    words (text ++ blanks) = words text := by
  by_cases none : blanks = []
  · rw [none, List.append_nil]
  · have cut := words_append_append none blank text []
    rwa [List.append_nil, words_nil, List.append_nil] at cut

/-- The blanks around a text are not part of a word. -/
theorem words_trim (text : List Char) : words (trim isBlank text) = words text := by
  obtain ⟨left, right, before, after, whole⟩ := exists_eq_append_trim isBlank text
  calc
    words (trim isBlank text) = words (left ++ (trim isBlank text ++ right)) := by
      rw [words_blank_append before, words_append_of_blank after]
    _ = words text := by rw [← List.append_assoc, ← whole]

/-- A text can be a word when it has a character, and no blank. -/
abbrev Solid (word : List Char) : Prop := word ≠ [] ∧ ∀ char ∈ word, isBlank char = false

theorem wordsFrom_append_of_free (start : List Char) (free : ∀ char ∈ text, isBlank char = false)
    (rest : List Char) : wordsFrom start (text ++ rest) = wordsFrom (start ++ text) rest := by
  induction text generalizing start with
  | nil => rw [List.nil_append, List.append_nil]
  | cons char text ih =>
      have kept : ¬ isBlank char = true := by simp [free char List.mem_cons_self]
      have others := ih (start ++ [char]) fun other inside => free other (List.mem_cons_of_mem _ inside)
      rw [List.cons_append, wordsFrom, if_neg kept, others, List.append_assoc,
        List.singleton_append]

theorem Solid.words_eq (solid : Solid word) : words word = [word] := by
  have whole := wordsFrom_append_of_free [] solid.2 []
  rw [List.append_nil, List.nil_append] at whole
  rw [words, whole, wordsFrom, if_neg]
  simpa using solid.1

/-- Words that blanks were put between are found again. -/
theorem words_intercalate (nonempty : blanks ≠ []) (blank : Blank blanks)
    {texts : List (List Char)} (solid : ∀ text ∈ texts, Solid text) :
    words (blanks.intercalate texts) = texts := by
  induction texts with
  | nil => rfl
  | cons first rest ih =>
      have one := (solid first List.mem_cons_self).words_eq
      have others := ih fun text inside => solid text (List.mem_cons_of_mem _ inside)
      cases rest with
      | nil => rwa [List.intercalate_singleton]
      | cons second rest =>
          rw [List.intercalate_cons_cons, words_append_append nonempty blank, one, others]
          rfl

end Words

end CommandShell.Text
