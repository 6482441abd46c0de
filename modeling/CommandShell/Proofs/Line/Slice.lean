import Mathlib.Data.List.TakeWhile

/-!
A line cut at separators. `mem_slices_iff` says that one pass from left to right finds the longest
stretches without a separator, each at its place, and `slices_sorted` that it finds them in the order
of their places.
-/

namespace CommandShell.Line

/-- A stretch of a line at its place. -/
structure Slice where
  before : List Char
  stretch : List Char
  after : List Char
  deriving DecidableEq, Repr

/-- A stretch without a separator is maximal where only separators and the ends of the line stand
next to it. -/
structure Slice.Maximal (separates : Char → Bool) (line : List Char) (slice : Slice) : Prop where
  whole : slice.before ++ slice.stretch ++ slice.after = line
  free : ∀ char ∈ slice.stretch, separates char = false
  opened : ∀ char ∈ slice.before.getLast?, separates char = true
  closed : ∀ char ∈ slice.after.head?, separates char = true

/-- Read the rest of a line. The characters of `stretch` have been read since the last separator, and
those of `before` up to it. -/
def slicesFrom (separates : Char → Bool) (before stretch : List Char) : List Char → List Slice
  | [] => [⟨before, stretch, []⟩]
  | char :: rest =>
      if separates char then
        ⟨before, stretch, char :: rest⟩ ::
          slicesFrom separates (before ++ stretch ++ [char]) [] rest
      else slicesFrom separates before (stretch ++ [char]) rest

/-- The slices of a line between separators, in order. -/
def slices (separates : Char → Bool) (line : List Char) : List Slice :=
  slicesFrom separates [] [] line

variable {separates : Char → Bool} {line before stretch rest : List Char}
  {first second slice : Slice}

section Places

/-- Where a maximal stretch starts decides where it ends. -/
theorem Slice.Maximal.takeWhile_eq (maximal : slice.Maximal separates line) :
    (slice.stretch ++ slice.after).takeWhile (fun char => !separates char) = slice.stretch := by
  have free : ∀ char ∈ slice.stretch, (!separates char) = true := by
    simpa using maximal.free
  have closed := maximal.closed
  rw [List.takeWhile_append_of_pos free]
  rcases after : slice.after with _ | ⟨char, rest⟩
  · rw [List.takeWhile_nil, List.append_nil]
  · have separator : separates char = true := closed char (by simp [after])
    rw [List.takeWhile_cons_of_neg (by simp [separator]), List.append_nil]

/-- No maximal stretch starts inside another one or right after it. -/
theorem Slice.Maximal.eq_of_le (one : first.Maximal separates line)
    (two : second.Maximal separates line) (later : first.before.length ≤ second.before.length)
    (within : second.before.length ≤ first.before.length + first.stretch.length) :
    first = second := by
  have wholes : first.before ++ first.stretch ++ first.after =
      second.before ++ second.stretch ++ second.after := by rw [one.whole, two.whole]
  rw [List.append_assoc, List.append_assoc] at wholes
  have front : first.before <+: second.before ++ (second.stretch ++ second.after) :=
    ⟨_, wholes⟩
  obtain ⟨extra, grown⟩ : first.before <+: second.before :=
    List.prefix_of_prefix_length_le front (List.prefix_append _ _) later
  rw [← grown, List.append_assoc, List.append_cancel_left_eq] at wholes
  have inside : extra <+: first.stretch := by
    have front' : extra <+: first.stretch ++ first.after := ⟨_, wholes.symm⟩
    refine List.prefix_of_prefix_length_le front' (List.prefix_append _ _) ?_
    rw [← grown, List.length_append] at within
    omega
  -- The last character before the second stretch would be a separator inside the first one.
  have none : extra = [] := by
    by_contra nonempty
    have last : extra.getLast nonempty ∈ second.before.getLast? := by
      rw [← grown, List.getLast?_append, List.getLast?_eq_some_getLast nonempty]
      rfl
    have separator := two.opened _ last
    rw [one.free _ (inside.subset (List.getLast_mem nonempty))] at separator
    cases separator
  subst none
  rw [List.append_nil] at grown
  rw [List.nil_append] at wholes
  have stretch : first.stretch = second.stretch := by
    rw [← one.takeWhile_eq, wholes, two.takeWhile_eq]
  rw [stretch, List.append_cancel_left_eq] at wholes
  rcases first with ⟨before, _, after⟩
  rcases second with ⟨_, _, _⟩
  simp only at grown stretch wholes
  rw [grown, stretch, wholes]

theorem before_le_of_mem_slicesFrom (inside : slice ∈ slicesFrom separates before stretch rest) :
    before.length ≤ slice.before.length := by
  induction rest generalizing before stretch with
  | nil =>
      rw [slicesFrom, List.mem_singleton] at inside
      rw [inside]
  | cons char rest ih =>
      by_cases separator : separates char
      · rw [slicesFrom, if_pos separator, List.mem_cons] at inside
        rcases inside with rfl | later
        · exact Nat.le_refl _
        · have further := ih later
          rw [List.append_assoc, List.length_append] at further
          omega
      · rw [slicesFrom, if_neg separator] at inside
        exact ih inside

theorem slicesFrom_sorted (separates : Char → Bool) (before stretch rest : List Char) :
    (slicesFrom separates before stretch rest).Pairwise fun first second =>
      first.before.length < second.before.length := by
  induction rest generalizing before stretch with
  | nil => exact List.pairwise_singleton _ _
  | cons char rest ih =>
      by_cases separator : separates char
      · rw [slicesFrom, if_pos separator, List.pairwise_cons]
        refine ⟨fun slice inside => ?_, ih _ _⟩
        have further := before_le_of_mem_slicesFrom inside
        simp only [List.length_append, List.length_singleton] at further
        change before.length < slice.before.length
        omega
      · rw [slicesFrom, if_neg separator]
        exact ih _ _

/-- The slices come in the order of their places, none of them twice. -/
theorem slices_sorted (separates : Char → Bool) (line : List Char) :
    (slices separates line).Pairwise fun first second =>
      first.before.length < second.before.length :=
  slicesFrom_sorted separates [] [] line

theorem mem_slicesFrom_iff (free : ∀ char ∈ stretch, separates char = false)
    (opened : ∀ char ∈ before.getLast?, separates char = true) :
    slice ∈ slicesFrom separates before stretch rest ↔
      slice.Maximal separates (before ++ stretch ++ rest) ∧
        before.length ≤ slice.before.length := by
  induction rest generalizing before stretch with
  | nil =>
      have this : Slice.Maximal separates (before ++ stretch ++ []) ⟨before, stretch, []⟩ :=
        ⟨rfl, free, opened, by simp⟩
      rw [slicesFrom, List.mem_singleton]
      constructor
      · rintro rfl
        exact ⟨this, Nat.le_refl _⟩
      · rintro ⟨maximal, later⟩
        refine (this.eq_of_le maximal later ?_).symm
        have lengths := congrArg List.length maximal.whole
        simp only [List.length_append, List.length_nil] at lengths
        change slice.before.length ≤ before.length + stretch.length
        omega
  | cons char rest ih =>
      by_cases separator : separates char
      · have this : Slice.Maximal separates (before ++ stretch ++ char :: rest)
            ⟨before, stretch, char :: rest⟩ := ⟨rfl, free, opened, by simpa using separator⟩
        have opened' : ∀ other ∈ (before ++ stretch ++ [char]).getLast?,
            separates other = true := by
          simpa using separator
        rw [slicesFrom, if_pos separator, List.mem_cons, ih (by simp) opened']
        simp only [List.append_nil, List.append_assoc, List.singleton_append] at this ⊢
        constructor
        · rintro (rfl | ⟨maximal, later⟩)
          · exact ⟨this, Nat.le_refl _⟩
          · rw [List.length_append] at later
            exact ⟨maximal, by omega⟩
        · rintro ⟨maximal, later⟩
          -- A slice that starts before this separator is the one that the separator closes.
          by_cases within : slice.before.length ≤ before.length + stretch.length
          · exact .inl (this.eq_of_le maximal later within).symm
          · refine .inr ⟨maximal, ?_⟩
            simp only [List.length_append, List.length_singleton]
            omega
      · have free' : ∀ other ∈ stretch ++ [char], separates other = false := by
          intro other inside
          rcases List.mem_append.1 inside with old | new
          · exact free other old
          · rw [List.mem_singleton.1 new]
            simpa using separator
        rw [slicesFrom, if_neg separator, ih free' opened]
        simp only [List.append_assoc, List.singleton_append]

/-- The slices of a line are its maximal stretches. -/
theorem mem_slices_iff : slice ∈ slices separates line ↔ slice.Maximal separates line := by
  rw [slices, mem_slicesFrom_iff (by simp) (by simp)]
  simp

end Places

end CommandShell.Line
