import CommandShell.Proofs.Console.Wrapping

/-!
Texts that need no second line. `Layout.paragraph_of_narrow` says that a text is laid out as it is
when each of its characters has columns of its own and there is room for all of them.
-/

namespace CommandShell

namespace Text

/-- Every character of a text has columns of its own. -/
def Drawn (text : List Char) : Prop := ∀ char ∈ text, columnsOf char ≠ 0

instance : DecidablePred Drawn := List.decidableBAll fun char => columnsOf char ≠ 0

variable {text rest : List Char}

theorem Drawn.columns_cons {char : Char} (drawn : Drawn (char :: rest)) :
    columns (char :: rest) = columnsOf char + columns rest := by
  obtain ⟨first, others⟩ := List.forall_mem_cons.1 drawn
  have starts : StartsDrawn rest := fun char first => others char (List.mem_of_mem_head? first)
  rw [columns, columnsAfter_drawn first, starts.columnsAfter_eq]

theorem Drawn.append_right (drawn : Drawn (text ++ rest)) : Drawn rest := fun char inside =>
  drawn char (List.mem_append_right _ inside)

theorem Drawn.columns_append (drawn : Drawn (text ++ rest)) :
    columns (text ++ rest) = columns text + columns rest := by
  induction text with
  | nil => exact (Nat.zero_add _).symm
  | cons char text ih =>
      have front : Drawn (char :: text) := fun other inside =>
        drawn other (List.mem_append_left _ inside)
      rw [List.cons_append] at drawn ⊢
      rw [drawn.columns_cons, front.columns_cons, ih (List.forall_mem_cons.1 drawn).2, Nat.add_assoc]

theorem Drawn.length_le (drawn : Drawn text) : text.length ≤ columns text := by
  induction text with
  | nil => exact le_rfl
  | cons char rest ih =>
      obtain ⟨first, others⟩ := List.forall_mem_cons.1 drawn
      have later := ih others
      rw [drawn.columns_cons, List.length_cons]
      omega

theorem Drawn.not_mem (drawn : Drawn text) {char : Char} (undrawn : columnsOf char = 0) :
    char ∉ text := fun inside => drawn char inside undrawn

/-- No character of a text is among codes that have no columns. -/
theorem Drawn.contains_eq_false (drawn : Drawn text) {codes : List ℕ}
    (undrawn : ∀ code ∈ codes, ¬ (code < 0x7F ∧ 0x20 ≤ code) ∧ covers zeroWidth code = true) :
    ∀ char ∈ text, codes.contains char.toNat = false := by
  intro char inside
  by_contra listed
  rw [Bool.not_eq_false, List.contains_iff_mem] at listed
  obtain ⟨unprinted, zero⟩ := undrawn _ listed
  exact drawn char inside (by rw [columnsOf, if_neg unprinted, if_pos zero])

end Text

namespace Layout

open Text

variable {overflow : Overflow} {width used : ℕ} {line text : List Char}

/-- Chunks that have room on a line are put there. -/
theorem fill_of_narrow {chunks : List (List Char)} (drawn : Drawn chunks.flatten)
    (narrow : used + columns chunks.flatten ≤ width) :
    fill overflow width line used chunks = [line ++ chunks.flatten] := by
  induction chunks generalizing line used with
  | nil => rw [fill, List.flatten_nil, List.append_nil]
  | cons chunk rest ih =>
      rw [List.flatten_cons] at drawn narrow ⊢
      rw [drawn.columns_append] at narrow
      have word := columns_le_of_isPrefix (trimEnd_isPrefix chunk)
      have room : used + columns (trimEnd isBlank chunk) ≤ width := by omega
      rw [fill.eq_def]
      dsimp only
      rw [if_pos room, ih drawn.append_right (by omega), List.append_assoc]

theorem split_eq_singleton {ends : Char → Bool} (none : ∀ char ∈ text, ends char = false) :
    split ends text = [text] := by
  induction text with
  | nil => rfl
  | cons char rest ih =>
      obtain ⟨first, others⟩ := List.forall_mem_cons.1 none
      rw [split, first, ih others]
      rfl

/-- A text for which there is room is laid out as it is. -/
theorem paragraph_of_narrow (drawn : Drawn text) (narrow : columns text ≤ width) :
    paragraph overflow width text = [text] := by
  have unfed : ∀ char ∈ text, (char == '\n') = false := by
    intro char inside
    rw [beq_eq_false_iff_ne]
    rintro rfl
    exact drawn _ inside (by decide)
  have untabbed : '\t' ∉ text := drawn.not_mem (by decide)
  have whole : broken overflow width text = [text] := by
    rw [broken]
    split
    · rfl
    · rename_i nonempty
      have flat : (chunks text).flatten = text := flatten_chunksFrom (.inr nonempty)
      rw [fill_of_narrow (by rwa [flat]) (by rwa [flat, Nat.zero_add]), flat, List.nil_append]
  have kept : settled overflow width text = text := by
    have long := drawn.length_le
    have cut : cutBlanks width text = text :=
      List.take_of_length_le ((long.trans narrow).trans (le_max_right _ _))
    rw [settled, cut]
    exact if_pos narrow
  rw [paragraph, lines, split_eq_singleton unfed, List.flatMap_singleton,
    expandTabs_eq_self untabbed, wrap, whole, List.map_singleton, kept]

theorem fill_ne_nil (overflow : Overflow) (width : ℕ) (line : List Char) (used : ℕ)
    (chunks : List (List Char)) : fill overflow width line used chunks ≠ [] := by
  induction chunks generalizing line used with
  | nil =>
      rw [fill.eq_def]
      exact List.cons_ne_nil _ _
  | cons chunk rest ih =>
      rw [fill.eq_def]
      dsimp only
      split
      · exact ih _ _
      · split
        · exact List.cons_ne_nil _ _
        · exact List.append_ne_nil_of_right_ne_nil _ (ih _ _)

/-- A text has a line, even if nothing is in it. -/
theorem paragraph_ne_nil (overflow : Overflow) (width : ℕ) (text : List Char) :
    paragraph overflow width text ≠ [] := by
  obtain ⟨line, rest, cut⟩ := List.exists_cons_of_ne_nil (split_ne_nil (· == '\n') text)
  have pieces : broken overflow width (expandTabs line) ≠ [] := by
    rw [broken]
    split
    · exact List.cons_ne_nil _ _
    · exact fill_ne_nil _ _ _ _ _
  rw [paragraph, lines, cut, List.flatMap_cons, wrap]
  exact List.append_ne_nil_of_left_ne_nil (by simpa using pieces) _

/-- A text on one line is as wide as its columns. -/
theorem breadth_of_drawn (drawn : Drawn text) : breadth text = columns text := by
  have unended : ∀ char ∈ text, endsLine char = false := drawn.contains_eq_false (by decide)
  rw [breadth, split_eq_singleton unended]
  simp

end Layout

end CommandShell
