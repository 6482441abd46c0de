import CommandShell.Proofs.Text.Words
import CommandShell.Text.Columns

/-!
The columns of texts that are put together, and of the clusters of a text. A text that is cut off
takes no more columns than it took before, and a text behind another one at most its own when its
first character has columns.
-/

namespace CommandShell.Text

section Columns

variable {char : Char} {last? : Option Char} {text rest : List Char}

theorem columnsOf_joiner : columnsOf joiner = 0 := by decide

theorem columnsOf_emojiSelector : columnsOf emojiSelector = 0 := by decide

theorem ne_joiner (drawn : columnsOf char ≠ 0) : char ≠ joiner := by
  rintro rfl
  exact drawn columnsOf_joiner

theorem ne_emojiSelector (drawn : columnsOf char ≠ 0) : char ≠ emojiSelector := by
  rintro rfl
  exact drawn columnsOf_emojiSelector

theorem columnsOf_le_two (char : Char) : columnsOf char ≤ 2 := by
  unfold columnsOf
  repeat' split
  all_goals omega

theorem selectorColumns_le_one (last? : Option Char) : selectorColumns last? ≤ 1 := by
  unfold selectorColumns
  repeat' split
  all_goals omega

theorem columnsAfter_joiner (last? : Option Char) (next : Char) (rest : List Char) :
    columnsAfter last? (joiner :: next :: rest) = columnsAfter last? rest := by
  rw [columnsAfter, if_pos rfl]

theorem columnsAfter_selector (last? : Option Char) (rest : List Char) :
    columnsAfter last? (emojiSelector :: rest) = selectorColumns last? + columnsAfter none rest := by
  have other : emojiSelector ≠ joiner := by decide
  cases rest with
  | nil => simp only [columnsAfter, if_neg other, ↓reduceIte]
  | cons next rest => simp only [columnsAfter, if_neg other, ↓reduceIte]

theorem columnsAfter_cons (joins : char ≠ joiner) (selects : char ≠ emojiSelector)
    (last? : Option Char) (rest : List Char) : columnsAfter last? (char :: rest) =
      columnsOf char + columnsAfter (if columnsOf char = 0 then last? else some char) rest := by
  cases rest with
  | nil => simp only [columnsAfter, if_neg joins, if_neg selects]
  | cons next rest => simp only [columnsAfter, if_neg joins, if_neg selects]

theorem columnsAfter_drawn (drawn : columnsOf char ≠ 0) (last? : Option Char) (rest : List Char) :
    columnsAfter last? (char :: rest) = columnsOf char + columnsAfter (some char) rest := by
  rw [columnsAfter_cons (ne_joiner drawn) (ne_emojiSelector drawn), if_neg drawn]

/-- What was drawn last counts for one column at most. -/
theorem columnsAfter_le_succ (last? other? : Option Char) (text : List Char) :
    columnsAfter last? text ≤ columnsAfter other? text + 1 := by
  induction last?, text using columnsAfter.induct generalizing other? with
  | case1 last? => exact Nat.zero_le _
  | case2 last? => exact Nat.zero_le _
  | case3 last? next rest ih =>
      rw [columnsAfter_joiner, columnsAfter_joiner]
      exact ih other?
  | case4 last? rest other ih =>
      have selected := selectorColumns_le_one last?
      rw [columnsAfter_selector, columnsAfter_selector]
      omega
  | case5 last? char rest joins selects ih =>
      rw [columnsAfter_cons joins selects, columnsAfter_cons joins selects]
      by_cases drawn : columnsOf char = 0
      · have later := ih other?
        rw [if_pos drawn] at later ⊢
        rw [if_pos drawn]
        omega
      · rw [if_neg drawn, if_neg drawn]
        omega

theorem columnsAfter_none_le (last? : Option Char) (text : List Char) :
    columnsAfter none text ≤ columnsAfter last? text := by
  induction last?, text using columnsAfter.induct with
  | case1 last? => exact Nat.zero_le _
  | case2 last? => exact Nat.zero_le _
  | case3 last? next rest ih =>
      rw [columnsAfter_joiner, columnsAfter_joiner]
      exact ih
  | case4 last? rest other ih =>
      have nothing : selectorColumns none = 0 := rfl
      rw [columnsAfter_selector, columnsAfter_selector]
      omega
  | case5 last? char rest joins selects ih =>
      rw [columnsAfter_cons joins selects, columnsAfter_cons joins selects]
      by_cases drawn : columnsOf char = 0
      · rw [if_pos drawn] at ih ⊢
        rw [if_pos drawn]
        omega
      · rw [if_neg drawn, if_neg drawn]

/-- A character that no selector widens counts for nothing. -/
theorem columnsAfter_eq_none (narrow : selectorColumns last? = 0) (text : List Char) :
    columnsAfter last? text = columnsAfter none text := by
  induction last?, text using columnsAfter.induct with
  | case1 last? => rfl
  | case2 last? => rfl
  | case3 last? next rest ih =>
      rw [columnsAfter_joiner, columnsAfter_joiner]
      exact ih narrow
  | case4 last? rest other ih =>
      rw [columnsAfter_selector, columnsAfter_selector, narrow]
      rfl
  | case5 last? char rest joins selects ih =>
      rw [columnsAfter_cons joins selects, columnsAfter_cons joins selects]
      by_cases drawn : columnsOf char = 0
      · rw [if_pos drawn] at ih ⊢
        rw [if_pos drawn, ih narrow]
      · rw [if_neg drawn, if_neg drawn]

theorem columnsAfter_le_append (last? : Option Char) (text rest : List Char) :
    columnsAfter last? text ≤ columnsAfter last? (text ++ rest) := by
  induction last?, text using columnsAfter.induct with
  | case1 last? => exact Nat.zero_le _
  | case2 last? => exact Nat.zero_le _
  | case3 last? next text ih =>
      rw [List.cons_append, List.cons_append, columnsAfter_joiner, columnsAfter_joiner]
      exact ih
  | case4 last? text other ih =>
      rw [List.cons_append, columnsAfter_selector, columnsAfter_selector]
      omega
  | case5 last? char text joins selects ih =>
      rw [List.cons_append, columnsAfter_cons joins selects, columnsAfter_cons joins selects]
      omega

/-- A text takes at least the columns of each of its starts. -/
theorem columns_le_of_isPrefix (start : text <+: rest) : columns text ≤ columns rest := by
  obtain ⟨tail, rfl⟩ := start
  exact columnsAfter_le_append none text tail

/-- The first character of a text has columns of its own. -/
def StartsDrawn (text : List Char) : Prop := ∀ char ∈ text.head?, columnsOf char ≠ 0

theorem StartsDrawn.columnsAfter_eq (drawn : StartsDrawn text) (last? : Option Char) :
    columnsAfter last? text = columns text := by
  cases text with
  | nil => rfl
  | cons char rest =>
      have first : columnsOf char ≠ 0 := drawn char rfl
      rw [columns, columnsAfter_drawn first, columnsAfter_drawn first]

/-- A joiner swallows a column at most, and that only if there is one. -/
theorem columnsAfter_append_le (drawn : StartsDrawn rest) (last? : Option Char) (text : List Char) :
    columnsAfter last? (text ++ rest) ≤ columnsAfter last? text + columns rest := by
  induction last?, text using columnsAfter.induct with
  | case1 last? =>
      rw [List.nil_append, drawn.columnsAfter_eq]
      exact Nat.le_add_left _ _
  | case2 last? =>
      rw [List.singleton_append]
      rcases rest with _ | ⟨char, rest⟩
      · exact Nat.zero_le _
      · have first : columnsOf char ≠ 0 := drawn char rfl
        have later := columnsAfter_le_succ last? (some char) rest
        rw [columnsAfter_joiner, columns, columnsAfter_drawn first]
        omega
  | case3 last? next text ih =>
      rw [List.cons_append, List.cons_append, columnsAfter_joiner, columnsAfter_joiner]
      exact ih
  | case4 last? text other ih =>
      rw [List.cons_append, columnsAfter_selector, columnsAfter_selector]
      omega
  | case5 last? char text joins selects ih =>
      rw [List.cons_append, columnsAfter_cons joins selects, columnsAfter_cons joins selects]
      omega

theorem columns_append_le (drawn : StartsDrawn rest) (text : List Char) :
    columns (text ++ rest) ≤ columns text + columns rest :=
  columnsAfter_append_le drawn none text

/-- Pieces that go on from a start: the first one has it, and the others start with characters that
have columns of their own. -/
structure Continues (start : List Char) (pieces : List (List Char)) : Prop where
  head : ∀ first ∈ pieces.head?, start <+: first
  tail : ∀ piece ∈ pieces.tail, StartsDrawn piece

variable {start : List Char} {pieces : List (List Char)}

theorem continues_singleton (extended : start <+: text) : Continues start [text] where
  head := by simpa using extended
  tail _ inside := absurd inside List.not_mem_nil

theorem Continues.of_isPrefix (continues : Continues text pieces) (extended : start <+: text) :
    Continues start pieces where
  head first heads := extended.trans (continues.head first heads)
  tail := continues.tail

/-- A piece ends before a character with columns of its own. -/
theorem Continues.cons (continues : Continues [char] pieces) (drawn : columnsOf char ≠ 0)
    (piece : List Char) : Continues piece (piece :: pieces) where
  head := by simp
  tail other inside := by
    rw [List.tail_cons] at inside
    rcases pieces with _ | ⟨first, others⟩
    · cases inside
    · rcases List.mem_cons.1 inside with rfl | behind
      · obtain ⟨rest, rfl⟩ := continues.head _ rfl
        rintro _ ⟨⟩
        exact drawn
      · exact continues.tail other behind

end Columns

section Clusters

/-- A cluster says no less than its columns, and no more than three. -/
structure Cluster.Sound (cluster : Cluster) : Prop where
  covers : Text.columns cluster.text ≤ cluster.columns
  small : cluster.columns ≤ 3

/-- A cluster that may still grow, after the last character that was drawn. -/
structure Cluster.Open (last? : Option Char) (cluster : Cluster) : Prop where
  covers : ∀ rest, Text.columns (cluster.text ++ rest) ≤ cluster.columns + columnsAfter last? rest
  small : cluster.columns + selectorColumns last? ≤ 3

variable {last? : Option Char} {cluster : Cluster} {char : Char}

theorem Cluster.Open.sound (opened : cluster.Open last?) : cluster.Sound where
  covers := by
    have whole := opened.covers []
    rwa [List.append_nil] at whole
  small := (Nat.le_add_right _ _).trans opened.small

theorem Cluster.Open.joiner (opened : cluster.Open last?) (next : Char) :
    (cluster.extend [Text.joiner, next] 0).Open last? where
  covers rest := by
    have later := opened.covers ([Text.joiner, next] ++ rest)
    rw [← List.append_assoc, List.cons_append, List.singleton_append, columnsAfter_joiner] at later
    exact later
  small := opened.small

theorem Cluster.Open.selector (opened : cluster.Open last?) :
    (cluster.extend [emojiSelector] (selectorColumns last?)).Open
      (if selectorColumns last? = 0 then last? else none) where
  covers rest := by
    have later := opened.covers ([emojiSelector] ++ rest)
    rw [← List.append_assoc, List.singleton_append, columnsAfter_selector] at later
    have rising := columnsAfter_none_le (if selectorColumns last? = 0 then last? else none) rest
    simp only [Cluster.extend]
    omega
  small := by
    have bound := opened.small
    have nothing : selectorColumns none = 0 := rfl
    simp only [Cluster.extend]
    split
    · omega
    · omega

theorem Cluster.Open.undrawn (opened : cluster.Open last?) (joins : char ≠ Text.joiner)
    (selects : char ≠ emojiSelector) (undrawn : columnsOf char = 0) :
    (cluster.extend [char] 0).Open last? where
  covers rest := by
    have later := opened.covers ([char] ++ rest)
    rw [← List.append_assoc, List.singleton_append, columnsAfter_cons joins selects, if_pos undrawn,
      undrawn, Nat.zero_add] at later
    exact later
  small := opened.small

theorem Cluster.open_empty : Cluster.Open none ⟨[], 0⟩ where
  covers rest := (Nat.zero_add _).ge
  small := by decide

theorem Cluster.open_drawn (drawn : columnsOf char ≠ 0) :
    Cluster.Open (some char) ⟨[char], columnsOf char⟩ where
  covers rest := by rw [List.singleton_append, Text.columns, columnsAfter_drawn drawn]
  small := by
    have two := columnsOf_le_two char
    have one := selectorColumns_le_one (some char)
    dsimp only
    omega

theorem clustersFrom_joiner (last? : Option Char) (cluster : Cluster) (next : Char)
    (rest : List Char) : clustersFrom last? cluster (joiner :: next :: rest) =
      clustersFrom last? (cluster.extend [joiner, next] 0) rest := by
  rw [clustersFrom, if_pos rfl]

theorem clustersFrom_selector (last? : Option Char) (cluster : Cluster) (rest : List Char) :
    clustersFrom last? cluster (emojiSelector :: rest) =
      clustersFrom (if selectorColumns last? = 0 then last? else none)
        (cluster.extend [emojiSelector] (selectorColumns last?)) rest := by
  have other : emojiSelector ≠ joiner := by decide
  cases rest with
  | nil => simp only [clustersFrom, if_neg other, ↓reduceIte]
  | cons next rest => simp only [clustersFrom, if_neg other, ↓reduceIte]

theorem clustersFrom_cons (joins : char ≠ joiner) (selects : char ≠ emojiSelector)
    (last? : Option Char) (cluster : Cluster) (rest : List Char) :
    clustersFrom last? cluster (char :: rest) =
      if columnsOf char = 0 then clustersFrom last? (cluster.extend [char] 0) rest
      else cluster :: clustersFrom (some char) ⟨[char], columnsOf char⟩ rest := by
  cases rest with
  | nil => simp only [clustersFrom, if_neg joins, if_neg selects]
  | cons next rest => simp only [clustersFrom, if_neg joins, if_neg selects]

theorem Cluster.Open.sound_joiner (opened : cluster.Open last?) :
    (cluster.extend [Text.joiner] 0).Sound where
  covers := opened.covers [Text.joiner]
  small := opened.sound.small

/-- Only the open cluster, with which the first one starts, may have no columns at its start. -/
theorem clustersFrom_sound (opened : cluster.Open last?) (text : List Char) :
    (∀ found ∈ clustersFrom last? cluster text, found.Sound) ∧
      Continues cluster.text ((clustersFrom last? cluster text).map Cluster.text) := by
  induction last?, cluster, text using clustersFrom.induct with
  | case1 last? cluster =>
      rw [clustersFrom, List.forall_mem_singleton]
      exact ⟨opened.sound, continues_singleton List.prefix_rfl⟩
  | case2 last? cluster =>
      simp only [clustersFrom, ↓reduceIte, List.forall_mem_singleton]
      exact ⟨opened.sound_joiner, continues_singleton (List.prefix_append _ _)⟩
  | case3 last? cluster next rest ih =>
      rw [clustersFrom_joiner]
      exact (ih (opened.joiner next)).imp_right (·.of_isPrefix (List.prefix_append _ _))
  | case4 last? cluster rest other ih =>
      rw [clustersFrom_selector]
      exact (ih opened.selector).imp_right (·.of_isPrefix (List.prefix_append _ _))
  | case5 last? cluster char rest joins selects undrawn ih =>
      rw [clustersFrom_cons joins selects, if_pos undrawn]
      exact (ih (opened.undrawn joins selects undrawn)).imp_right
        (·.of_isPrefix (List.prefix_append _ _))
  | case6 last? cluster char rest joins selects drawn ih =>
      rw [clustersFrom_cons joins selects, if_neg drawn, List.forall_mem_cons, List.map_cons]
      obtain ⟨sound, continues⟩ := ih (Cluster.open_drawn drawn)
      exact ⟨⟨opened.sound, sound⟩, continues.cons drawn cluster.text⟩

/-- The first character of a text opens a cluster of its own. -/
theorem exists_clusters_cons (joins : char ≠ joiner) : ∃ last? cluster, cluster.Open last? ∧
    cluster.text = [char] ∧ ∀ rest, clusters (char :: rest) = clustersFrom last? cluster rest ∧
      columns (char :: rest) = cluster.columns + columnsAfter last? rest := by
  by_cases drawn : columnsOf char = 0
  · by_cases selects : char = emojiSelector
    · refine ⟨none, ⟨[char], 0⟩, ?_, rfl, fun rest => ⟨?_, ?_⟩⟩
      · rw [selects]
        exact Cluster.open_empty.selector
      · rw [clusters, if_pos (.inr (.inl selects))]
      · rw [selects]
        exact columnsAfter_selector none rest
    · refine ⟨none, ⟨[char], 0⟩, Cluster.open_empty.undrawn joins selects drawn, rfl,
        fun rest => ⟨?_, ?_⟩⟩
      · rw [clusters, if_pos (.inr (.inr drawn))]
      · rw [columns, columnsAfter_cons joins selects, if_pos drawn, drawn]
  · have other : ¬ (char = joiner ∨ char = emojiSelector ∨ columnsOf char = 0) := by
      simp [joins, ne_emojiSelector drawn, drawn]
    refine ⟨some char, ⟨[char], columnsOf char⟩, Cluster.open_drawn drawn, rfl,
      fun rest => ⟨?_, columnsAfter_drawn drawn none rest⟩⟩
    rw [clusters, if_neg other]

/-- The clusters of a text that starts with no joiner are sound. -/
theorem clusters_sound {text : List Char} (joinless : text.head? ≠ some joiner) :
    (∀ found ∈ clusters text, found.Sound) ∧
      ∀ piece ∈ ((clusters text).map Cluster.text).tail, StartsDrawn piece := by
  rcases text with _ | ⟨char, rest⟩
  · exact ⟨fun _ inside => absurd inside List.not_mem_nil,
      fun _ inside => absurd inside List.not_mem_nil⟩
  · have joins : char ≠ joiner := fun same => joinless (congrArg some same)
    obtain ⟨last?, cluster, opened, _, shape⟩ := exists_clusters_cons joins
    rw [(shape rest).1]
    exact (clustersFrom_sound opened rest).imp_right Continues.tail

end Clusters

end CommandShell.Text
