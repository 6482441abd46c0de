import CommandShell.Proofs.Console.Report
import CommandShell.Proofs.Text.Columns
import Mathlib.Data.List.Flatten
import Mathlib.Data.List.Infix

/-!
Texts in lines that fit. Whatever a text is, its lines show nothing but what is in it, blanks aside,
and `solid_paragraph` says that they show all of it when each of its words starts with a character
that has columns of its own.
-/

namespace CommandShell

namespace Text

/-- The characters of a text that are not blank. -/
def solid (text : List Char) : List Char := text.filter (!isBlank ·)

variable {text rest : List Char}

theorem solid_append (text rest : List Char) : solid (text ++ rest) = solid text ++ solid rest :=
  List.filter_append text rest

theorem solid_of_blank (blank : Blank text) : solid text = [] :=
  List.filter_eq_nil_iff.2 fun char inside => by simp [blank char inside]

theorem solid_append_blank (blank : Blank rest) (text : List Char) :
    solid (text ++ rest) = solid text := by
  rw [solid_append, solid_of_blank blank, List.append_nil]

theorem solid_flatten (pieces : List (List Char)) :
    solid pieces.flatten = pieces.flatMap solid := by
  rw [solid, List.filter_flatten, List.flatMap_def]
  rfl

theorem blank_replicate (count : ℕ) : Blank (List.replicate count ' ') := by
  intro char inside
  rw [List.eq_of_mem_replicate inside]
  decide

/-- Blanks at the end of a text are all that trimming takes away there. -/
theorem exists_eq_trimEnd_append (text : List Char) :
    ∃ right, Blank right ∧ text = trimEnd isBlank text ++ right :=
  ⟨text.rtakeWhile isBlank, fun _ inside => List.mem_rtakeWhile_imp inside,
    List.rdropWhile_append_rtakeWhile.symm⟩

/-- Every word starts with a character that has columns of its own. The characters go on after a
blank, or after one that is none. -/
def anchoredAfter (blank : Bool) : List Char → Bool
  | [] => true
  | char :: rest =>
      (!blank || isBlank char || columnsOf char != 0) && anchoredAfter (isBlank char) rest

/-- Every word of a text starts with a character that has columns of its own. -/
def Anchored (text : List Char) : Prop := anchoredAfter true text = true

instance : DecidablePred Anchored := fun _ => inferInstanceAs (Decidable (_ = true))

theorem isBlank_joiner : isBlank joiner = false := by decide

theorem isBlank_emojiSelector : isBlank emojiSelector = false := by decide

theorem Anchored.joinless (anchored : Anchored text) : text.head? ≠ some joiner := by
  rcases text with _ | ⟨char, rest⟩
  · simp
  · rintro ⟨⟩
    simp [Anchored, anchoredAfter, isBlank_joiner, columnsOf_joiner] at anchored

end Text

namespace Layout

open Text

section Tabs

theorem solid_expandTabsFrom (column : ℕ) (part line : List Char) :
    solid (expandTabsFrom column part line) = solid (part ++ line) := by
  induction line generalizing column part with
  | nil => rw [expandTabsFrom, List.append_nil]
  | cons char rest ih =>
      rw [expandTabsFrom]
      split
      · rename_i tab
        have blank : Blank [char] := List.forall_mem_singleton.2 (by rw [tab]; decide)
        have space : Blank [' '] := List.forall_mem_singleton.2 (by decide)
        rw [solid_append, ih, solid_append_blank (blank_replicate _), solid_append_blank space,
          ← List.singleton_append, solid_append part, solid_append [char], solid_of_blank blank]
        rfl
      · rw [ih, List.append_assoc]
        rfl

theorem solid_expandTabs (line : List Char) : solid (expandTabs line) = solid line :=
  solid_expandTabsFrom 0 [] line

end Tabs

section Chunks

variable {chunk line : List Char} {word blank : Bool}

/-- The chunks of a line hold all of it, unless there is no word in it. -/
theorem flatten_chunksFrom
    (some : word = true ∨ chunksFrom chunk word blank line ≠ []) :
    (chunksFrom chunk word blank line).flatten = chunk ++ line := by
  induction line generalizing chunk word blank with
  | nil =>
      rcases some with rfl | some
      · simp [chunksFrom]
      · rw [chunksFrom] at some ⊢
        split at some
        · rename_i worded
          simp [worded]
        · exact absurd rfl some
  | cons char rest ih =>
      rw [chunksFrom] at some ⊢
      by_cases gap : isBlank char = true
      · rw [if_pos gap] at some ⊢
        rw [ih some, List.append_assoc]
        rfl
      · rw [if_neg gap] at some ⊢
        by_cases ended : blank = true
        · rw [if_pos ended, List.flatten_cons, ih (.inl rfl)]
          rfl
        · rw [if_neg ended, ih (.inl rfl), List.append_assoc]
          rfl

/-- Only a line without words has no chunks. -/
theorem blank_of_chunksFrom (nothing : chunksFrom chunk word blank line = []) : Blank line := by
  induction line generalizing chunk word blank with
  | nil => exact fun _ inside => absurd inside List.not_mem_nil
  | cons char rest ih =>
      rw [chunksFrom] at nothing
      by_cases gap : isBlank char = true
      · rw [if_pos gap] at nothing
        exact List.forall_mem_cons.2 ⟨gap, ih nothing⟩
      · have worded := @flatten_chunksFrom (chunk ++ [char]) rest true false (.inl rfl)
        rw [if_neg gap] at nothing
        split at nothing
        · cases nothing
        · rw [nothing] at worded
          simp at worded

/-- A chunk goes on to the end of the blanks behind its word. -/
theorem chunksFrom_continues {after : Bool} (anchored : anchoredAfter after line = true)
    (between : blank = true → after = true) :
    Continues chunk (chunksFrom chunk word blank line) := by
  induction line generalizing chunk word blank after with
  | nil =>
      rw [chunksFrom]
      split
      · exact continues_singleton List.prefix_rfl
      · exact ⟨fun _ inside => (nomatch inside), fun _ inside => (nomatch inside)⟩
  | cons char rest ih =>
      rw [anchoredAfter, Bool.and_eq_true] at anchored
      rw [chunksFrom]
      by_cases gap : isBlank char = true
      · rw [if_pos gap]
        exact (ih anchored.2 fun _ => gap).of_isPrefix (List.prefix_append _ _)
      · rw [if_neg gap]
        have begun (start : List Char) : Continues start (chunksFrom start true false rest) :=
          ih anchored.2 fun ended => absurd ended Bool.false_ne_true
        by_cases ended : blank = true
        · have drawn : columnsOf char ≠ 0 := by simpa [between ended, gap] using anchored.1
          rw [if_pos ended]
          exact (begun [char]).cons drawn chunk
        · rw [if_neg ended]
          exact (begun _).of_isPrefix (List.prefix_append _ _)

end Chunks

section Pieces

variable {width used : ℕ} {line piece text : List Char} {pieces : List (List Char)}

theorem trimEnd_isPrefix (text : List Char) : trimEnd isBlank text <+: text :=
  List.rdropWhile_prefix (p := isBlank) text

/-- Trimming a text behind another one reaches into that one only when nothing is left before. -/
theorem trimEnd_append_isPrefix (text rest : List Char) :
    trimEnd isBlank (text ++ rest) <+: text ++ trimEnd isBlank rest := by
  have shape (text : List Char) : trimEnd isBlank text = text.rdropWhile isBlank := rfl
  rw [shape, shape]
  induction rest using List.reverseRecOn with
  | nil =>
      rw [List.append_nil, List.rdropWhile_nil, List.append_nil]
      exact trimEnd_isPrefix text
  | append_singleton rest char ih =>
      rw [← List.append_assoc]
      by_cases blank : isBlank char = true
      · rw [List.rdropWhile_concat_pos isBlank _ char blank,
          List.rdropWhile_concat_pos isBlank _ char blank]
        exact ih
      · rw [List.rdropWhile_concat_neg isBlank _ char blank,
          List.rdropWhile_concat_neg isBlank _ char blank, List.append_assoc]

theorem mem_head?_of_isPrefix {char : Char} (start : text <+: piece) (first : char ∈ text.head?) :
    char ∈ piece.head? := by
  obtain ⟨rest, rfl⟩ := start
  rw [Option.mem_def] at first ⊢
  rw [List.head?_append, first]
  rfl

/-- Pieces that may be put behind a line. None starts with a joiner, and a piece with no columns at
its start is put on an empty line only. -/
structure Follow (line : List Char) (pieces : List (List Char)) : Prop where
  joinless : ∀ piece ∈ pieces, piece.head? ≠ some joiner
  head : line = [] ∨ ∀ piece ∈ pieces.head?, StartsDrawn piece
  tail : ∀ piece ∈ pieces.tail, StartsDrawn piece

theorem head?_append_ne_joiner (first : text.head? ≠ some joiner) (second : piece.head? ≠ some joiner) :
    (text ++ piece).head? ≠ some joiner := by
  cases text with
  | nil => exact second
  | cons char rest => exact first

theorem StartsDrawn.joinless (drawn : StartsDrawn text) : text.head? ≠ some joiner :=
  fun first => ne_joiner (drawn joiner first) rfl

theorem follow_nil (joinless : pieces.flatten.head? ≠ some joiner)
    (tail : ∀ piece ∈ pieces.tail, StartsDrawn piece) : Follow [] pieces where
  joinless piece inside := by
    rcases pieces with _ | ⟨first, others⟩
    · cases inside
    · rcases List.mem_cons.1 inside with rfl | behind
      · exact fun joins => joinless (mem_head?_of_isPrefix (List.prefix_append piece _) joins)
      · exact StartsDrawn.joinless (tail piece behind)
  head := .inl rfl
  tail := tail

theorem Follow.rest (follow : Follow line (piece :: pieces)) (other : List Char) :
    Follow other pieces where
  joinless next inside := follow.joinless next (List.mem_cons_of_mem _ inside)
  head := .inr fun next first => follow.tail next (List.mem_of_mem_head? first)
  tail next inside := follow.tail next (List.mem_of_mem_tail inside)

theorem Follow.columns_append_le (follow : Follow line (piece :: pieces)) (start : text <+: piece) :
    columns (line ++ text) ≤ columns line + columns text := by
  rcases follow.head with rfl | drawn
  · exact Nat.le_add_left _ _
  · exact Text.columns_append_le
      (fun char first => drawn _ rfl char (mem_head?_of_isPrefix start first)) line

/-- A piece of a line of which nothing but blanks is too wide. -/
structure Fits (width : ℕ) (piece : List Char) : Prop where
  joinless : piece.head? ≠ some joiner
  narrow : columns (trimEnd isBlank piece) ≤ width

theorem fits_nil (width : ℕ) : Fits width [] := ⟨by simp, Nat.zero_le _⟩

theorem fits_of_columns_le (joinless : piece.head? ≠ some joiner)
    (narrow : columns piece ≤ width) : Fits width piece :=
  ⟨joinless, (columns_le_of_isPrefix (trimEnd_isPrefix piece)).trans narrow⟩

theorem chopFrom_fits {clusters : List Cluster} (wide : 3 ≤ width)
    (joinless : piece.head? ≠ some joiner) (counted : columns piece ≤ used) (narrow : used ≤ width)
    (sound : ∀ cluster ∈ clusters, cluster.Sound) (follow : Follow piece (clusters.map Cluster.text)) :
    ∀ found ∈ chopFrom width piece used clusters, Fits width found := by
  induction clusters generalizing piece used with
  | nil =>
      rw [chopFrom, List.forall_mem_singleton]
      exact fits_of_columns_le joinless (counted.trans narrow)
  | cons cluster rest ih =>
      rw [List.forall_mem_cons] at sound
      rw [List.map_cons] at follow
      have starts := follow.joinless cluster.text List.mem_cons_self
      rw [chopFrom]
      split
      · rw [List.forall_mem_cons]
        exact ⟨fits_of_columns_le joinless (counted.trans narrow),
          ih starts sound.1.covers (sound.1.small.trans wide) sound.2 (follow.rest _)⟩
      · rename_i room
        have joined := follow.columns_append_le List.prefix_rfl
        have covers := sound.1.covers
        exact ih (head?_append_ne_joiner joinless starts) (by omega) (by omega) sound.2
          (follow.rest _)

/-- A word is chopped into pieces that fit. -/
theorem chop_fits (wide : 3 ≤ width) (joinless : text.head? ≠ some joiner) :
    ∀ found ∈ chop width text, Fits width found := by
  obtain ⟨sound, drawn⟩ := clusters_sound joinless
  refine chopFrom_fits wide (by simp) le_rfl (Nat.zero_le _) sound (follow_nil ?_ drawn)
  rwa [← List.flatMap_def, clusters_text]

theorem fill_fits {chunks : List (List Char)} (wide : 3 ≤ width) (fits : Fits width line)
    (counted : columns line ≤ used) (follow : Follow line chunks) :
    ∀ found ∈ fill .fold width line used chunks, Fits width found := by
  induction chunks generalizing line used with
  | nil =>
      rw [fill, List.forall_mem_singleton]
      exact fits
  | cons chunk rest ih =>
      have starts := follow.joinless chunk List.mem_cons_self
      rw [fill]
      dsimp only
      split
      · rename_i room
        have wordless := columns_le_of_isPrefix (trimEnd_append_isPrefix line chunk)
        have joined := follow.columns_append_le (trimEnd_isPrefix chunk)
        have whole := follow.columns_append_le (List.prefix_refl chunk)
        exact ih ⟨head?_append_ne_joiner fits.joinless starts, by omega⟩ (by omega) (follow.rest _)
      · split
        · rename_i room
          rw [List.forall_mem_cons]
          exact ⟨fits, ih ⟨starts, room⟩ le_rfl (follow.rest _)⟩
        · have chopped := chop_fits wide starts
          have last : Fits width ((chop width chunk).getLast?.getD []) := by
            rcases found : (chop width chunk).getLast? with _ | piece
            · exact fits_nil width
            · exact chopped piece (List.mem_of_getLast? found)
          intro found inside
          rw [List.append_assoc, List.mem_append, List.mem_append] at inside
          rcases inside with before | within | behind
          · split at before
            · cases before
            · rw [List.mem_singleton.1 before]
              exact fits
          · exact chopped found ((List.dropLast_subset _ within))
          · exact ih last le_rfl (follow.rest _) found behind

/-- The pieces of a word hold all of it. -/
theorem flatten_chopFrom (piece : List Char) (used : ℕ) (clusters : List Cluster) :
    (chopFrom width piece used clusters).flatten = piece ++ clusters.flatMap Cluster.text := by
  induction clusters generalizing piece used with
  | nil => simp [chopFrom]
  | cons cluster rest ih =>
      rw [chopFrom]
      split
      · rw [List.flatten_cons, ih, List.flatMap_cons]
      · rw [ih, List.flatMap_cons, List.append_assoc]

theorem flatten_chop (width : ℕ) (text : List Char) : (chop width text).flatten = text := by
  rw [chop, flatten_chopFrom, List.nil_append, clusters_text]

theorem flatten_dropLast (pieces : List (List Char)) :
    pieces.dropLast.flatten ++ pieces.getLast?.getD [] = pieces.flatten := by
  rcases List.eq_nil_or_concat pieces with rfl | ⟨before, last, rfl⟩
  · rfl
  · simp

theorem flatten_fill (line : List Char) (used : ℕ) (chunks : List (List Char)) :
    (fill .fold width line used chunks).flatten = line ++ chunks.flatten := by
  induction chunks generalizing line used with
  | nil => simp [fill]
  | cons chunk rest ih =>
      rw [fill, List.flatten_cons]
      dsimp only
      split
      · rw [ih, List.append_assoc]
      · split
        · rw [List.flatten_cons, ih]
        · have before : (if line.isEmpty then [] else [line]).flatten = line := by
            cases line with
            | nil => rfl
            | cons char line => simp
          rw [List.flatten_append, List.flatten_append, before, ih, ← List.append_assoc,
            List.append_assoc line, flatten_dropLast, flatten_chop, List.append_assoc]

end Pieces

section Cropping

variable {width : ℕ} {last? : Option Char} {cluster : Cluster} {text right piece : List Char}

/-- Nothing is shown of a cropped text that is not in it, but for spaces. -/
theorem solid_cropFrom_sublist (width : ℕ) (clusters : List Cluster) :
    (solid (cropFrom width clusters)).Sublist (solid (clusters.flatMap Cluster.text)) := by
  induction clusters generalizing width with
  | nil => exact List.Sublist.refl _
  | cons cluster rest ih =>
      rw [cropFrom, List.flatMap_cons, solid_append]
      split
      · rw [solid_append]
        exact (ih _).append_left _
      · rw [solid_of_blank (blank_replicate width)]
        exact List.nil_sublist _

/-- A cluster with blanks behind it is kept when there is room for it. -/
theorem solid_cropFrom_blank (blank : Blank right) (narrow : cluster.columns ≤ width) :
    solid (cropFrom width (clustersFrom last? cluster right)) = solid cluster.text := by
  induction last?, cluster, right using clustersFrom.induct with
  | case1 last? cluster => simp [clustersFrom, cropFrom, narrow]
  | case2 last? cluster =>
      have joins := blank joiner List.mem_cons_self
      simp [isBlank_joiner] at joins
  | case3 last? cluster next rest ih =>
      have joins := blank joiner List.mem_cons_self
      simp [isBlank_joiner] at joins
  | case4 last? cluster rest other ih =>
      have selects := blank emojiSelector List.mem_cons_self
      simp [isBlank_emojiSelector] at selects
  | case5 last? cluster char rest joins selects undrawn ih =>
      rw [Blank, List.forall_mem_cons] at blank
      rw [clustersFrom_cons joins selects, if_pos undrawn, ih blank.2 narrow]
      exact solid_append_blank (List.forall_mem_singleton.2 blank.1) _
  | case6 last? cluster char rest joins selects drawn ih =>
      rw [clustersFrom_cons joins selects, if_neg drawn, cropFrom, if_pos narrow, solid_append]
      have nothing := solid_cropFrom_sublist (width - cluster.columns)
        (clustersFrom (some char) ⟨[char], columnsOf char⟩ rest)
      rw [clustersFrom_text, List.singleton_append, solid_of_blank blank] at nothing
      rw [List.sublist_nil.1 nothing, List.append_nil]

/-- A text that fits is kept, whatever blanks there are behind it. -/
theorem solid_cropFrom (blank : Blank right)
    (narrow : cluster.columns + columnsAfter last? text ≤ width) :
    solid (cropFrom width (clustersFrom last? cluster (text ++ right))) =
      solid (cluster.text ++ text) := by
  induction last?, cluster, text using clustersFrom.induct generalizing width with
  | case1 last? cluster =>
      rw [List.nil_append, List.append_nil]
      exact solid_cropFrom_blank blank narrow
  | case2 last? cluster =>
      rcases right with _ | ⟨next, right⟩
      · have room : cluster.columns ≤ width := narrow
        simp [clustersFrom, cropFrom, Cluster.extend, room]
      · have room : (cluster.extend [joiner, next] 0).columns ≤ width := narrow
        rw [Blank, List.forall_mem_cons] at blank
        rw [List.singleton_append, clustersFrom_joiner, solid_cropFrom_blank blank.2 room,
          Cluster.extend, ← List.singleton_append, ← List.append_assoc]
        exact solid_append_blank (List.forall_mem_singleton.2 blank.1) _
  | case3 last? cluster next rest ih =>
      rw [columnsAfter_joiner] at narrow
      rw [List.cons_append, List.cons_append, clustersFrom_joiner, ih narrow, Cluster.extend,
        List.append_assoc]
      rfl
  | case4 last? cluster rest other ih =>
      have same : columnsAfter (if selectorColumns last? = 0 then last? else none) rest =
          columnsAfter none rest := by
        split
        · rename_i plain
          exact columnsAfter_eq_none plain rest
        · rfl
      rw [columnsAfter_selector, ← Nat.add_assoc, ← same] at narrow
      rw [List.cons_append, clustersFrom_selector, ih narrow, Cluster.extend, List.append_assoc]
      rfl
  | case5 last? cluster char rest joins selects undrawn ih =>
      rw [columnsAfter_cons joins selects, if_pos undrawn, undrawn, Nat.zero_add] at narrow
      rw [List.cons_append, clustersFrom_cons joins selects, if_pos undrawn, ih narrow,
        Cluster.extend, List.append_assoc]
      rfl
  | case6 last? cluster char rest joins selects drawn ih =>
      rw [columnsAfter_drawn drawn] at narrow
      have room : cluster.columns ≤ width := by omega
      have behind : columnsOf char + columnsAfter (some char) rest ≤ width - cluster.columns := by
        omega
      rw [List.cons_append, clustersFrom_cons joins selects, if_neg drawn, cropFrom, if_pos room,
        solid_append, ih behind, ← solid_append]
      rfl

theorem solid_crop_sublist (width : ℕ) (text : List Char) :
    (solid (crop width text)).Sublist (solid text) := by
  have shown := solid_cropFrom_sublist width (clusters text)
  rwa [clusters_text] at shown

theorem solid_crop (blank : Blank right) (joinless : text.head? ≠ some joiner)
    (narrow : columns text ≤ width) : solid (crop width (text ++ right)) = solid text := by
  rcases text with _ | ⟨char, rest⟩
  · have shown := solid_crop_sublist width right
    rw [solid_of_blank blank] at shown
    exact List.sublist_nil.1 shown
  · have joins : char ≠ joiner := fun same => joinless (congrArg some same)
    obtain ⟨last?, cluster, _, begun, shape⟩ := exists_clusters_cons joins
    rw [(shape rest).2] at narrow
    rw [crop, List.cons_append, (shape (rest ++ right)).1, solid_cropFrom blank narrow, begun]
    rfl

theorem exists_cutBlanks (width : ℕ) (piece : List Char) : ∃ right, Blank right ∧
    cutBlanks width piece = trimEnd isBlank piece ++ right := by
  obtain ⟨right, blank, whole⟩ := exists_eq_trimEnd_append piece
  let kept := max (trimEnd isBlank piece).length width
  have long : (trimEnd isBlank piece).length ≤ kept := le_max_left _ _
  refine ⟨right.take (kept - (trimEnd isBlank piece).length),
    fun char inside => blank char (List.mem_of_mem_take inside), ?_⟩
  calc cutBlanks width piece = (trimEnd isBlank piece ++ right).take kept :=
        congrArg (List.take kept) whole
    _ = trimEnd isBlank piece ++ right.take (kept - (trimEnd isBlank piece).length) := by
        rw [List.take_append, List.take_of_length_le long]

theorem solid_trimEnd (text : List Char) : solid (trimEnd isBlank text) = solid text := by
  obtain ⟨right, blank, whole⟩ := exists_eq_trimEnd_append text
  conv_rhs => rw [whole]
  exact (solid_append_blank blank _).symm

/-- A piece shows nothing that is not in it, but for spaces. -/
theorem solid_settled_sublist (width : ℕ) (piece : List Char) :
    (solid (settled .fold width piece)).Sublist (solid piece) := by
  obtain ⟨right, blank, cut⟩ := exists_cutBlanks width piece
  have same : solid (cutBlanks width piece) = solid piece := by
    rw [cut, solid_append_blank blank, solid_trimEnd]
  rw [settled, fit, ← same]
  split
  · exact List.Sublist.refl _
  · exact solid_crop_sublist width _

/-- A piece that fits is shown as it is, blanks aside. -/
theorem solid_settled (fits : Fits width piece) : solid (settled .fold width piece) = solid piece := by
  obtain ⟨right, blank, cut⟩ := exists_cutBlanks width piece
  have joinless : (trimEnd isBlank piece).head? ≠ some joiner := fun first =>
    fits.joinless (mem_head?_of_isPrefix (trimEnd_isPrefix piece) first)
  rw [settled, fit, cut]
  split
  · rw [solid_append_blank blank, solid_trimEnd]
  · exact (solid_crop blank joinless fits.narrow).trans (solid_trimEnd piece)

end Cropping

section Paragraph

variable {width : ℕ} {line text : List Char}

theorem flatten_broken (width : ℕ) (line : List Char) : (broken .fold width line).flatten = line := by
  rw [broken]
  split
  · exact List.append_nil line
  · rename_i nonempty
    rw [flatten_fill]
    exact flatten_chunksFrom (.inr nonempty)

/-- The pieces of a line fit when its words have columns at their start. -/
theorem solid_settled_broken (wide : 3 ≤ width) (anchored : Anchored line) :
    ∀ piece ∈ broken .fold width line, solid (settled .fold width piece) = solid piece := by
  intro piece inside
  rw [broken] at inside
  split at inside
  · rename_i wordless
    have shown := solid_settled_sublist width piece
    have nothing : solid piece = [] := by
      rw [List.mem_singleton.1 inside]
      exact solid_of_blank (blank_of_chunksFrom wordless)
    rw [nothing] at shown ⊢
    exact List.sublist_nil.1 shown
  · rename_i nonempty
    have whole : (chunks line).flatten = line := flatten_chunksFrom (.inr nonempty)
    have continues : Continues [] (chunks line) := chunksFrom_continues anchored (fun _ => rfl)
    have follow : Follow [] (chunks line) :=
      follow_nil (by rw [whole]; exact anchored.joinless) continues.tail
    exact solid_settled (fill_fits wide (fits_nil width) (Nat.zero_le _) follow piece inside)

theorem solid_join (lines : List (List Char)) : solid (join lines) = lines.flatMap solid := by
  induction lines with
  | nil => rfl
  | cons line rest ih =>
      have feed : Blank ['\n'] := List.forall_mem_singleton.2 (by decide)
      rw [List.flatMap_cons, ← ih, join, List.flatMap_cons, solid_append, solid_append_blank feed]
      rfl

theorem solid_lines (text : List Char) : (lines text).flatMap solid = solid text := by
  have feed : Blank ['\n'] := List.forall_mem_singleton.2 (by decide)
  rw [← solid_join, join_lines, solid_append_blank feed]

theorem flatMap_solid_broken (width : ℕ) (line : List Char) :
    (broken .fold width line).flatMap solid = solid line := by
  rw [← solid_flatten, flatten_broken]

theorem solid_join_paragraph (width : ℕ) (text : List Char) :
    solid (join (paragraph .fold width text)) = (lines text).flatMap fun line =>
      (broken .fold width (expandTabs line)).flatMap fun piece =>
        solid (settled .fold width piece) := by
  simp only [solid_join, paragraph, wrap, List.flatMap_assoc, List.flatMap_map]

/-- The lines of a text show nothing that is not in it, blanks aside. -/
theorem solid_paragraph_sublist (width : ℕ) (text : List Char) :
    (solid (join (paragraph .fold width text))).Sublist (solid text) := by
  rw [solid_join_paragraph, ← solid_lines text]
  apply List.Sublist.flatMap_right
  intro line _
  rw [← solid_expandTabs line, ← flatMap_solid_broken width (expandTabs line)]
  apply List.Sublist.flatMap_right
  intro piece _
  exact solid_settled_sublist width piece

theorem anchoredAfter_append {char : Char} (gap : isBlank char = true) (after : Bool)
    (text rest : List Char) : anchoredAfter after (text ++ char :: rest) =
      (anchoredAfter after text && anchoredAfter true rest) := by
  induction text generalizing after with
  | nil => simp [anchoredAfter, gap]
  | cons first text ih => rw [List.cons_append, anchoredAfter, anchoredAfter, ih, Bool.and_assoc]

theorem anchoredAfter_blank {gap : List Char} (blank : Blank gap) (rest : List Char) :
    anchoredAfter true (gap ++ rest) = anchoredAfter true rest := by
  induction gap with
  | nil => rfl
  | cons char gap ih =>
      obtain ⟨first, others⟩ := List.forall_mem_cons.1 blank
      rw [List.cons_append, anchoredAfter, first, ih others]
      rfl

/-- Spaces for tabs keep words apart as the tabs did. -/
theorem anchoredAfter_expandTabsFrom {after : Bool} {part : List Char} (column : ℕ)
    (anchored : anchoredAfter after (part ++ line) = true) :
    anchoredAfter after (expandTabsFrom column part line) = true := by
  induction line generalizing after column part with
  | nil => rwa [List.append_nil] at anchored
  | cons char rest ih =>
      rw [expandTabsFrom]
      split
      · rename_i tab
        have gap : isBlank char = true := by rw [tab]; decide
        rw [anchoredAfter_append gap, Bool.and_eq_true] at anchored
        rw [List.append_assoc, List.append_assoc, List.singleton_append,
          anchoredAfter_append (by decide), anchoredAfter_blank (blank_replicate _), anchored.1]
        exact ih _ anchored.2
      · exact ih column (by rwa [List.append_assoc])

theorem exists_lines_cons {after : Bool} (anchored : anchoredAfter after text = true) :
    ∃ first others, lines text = first :: others ∧ anchoredAfter after first = true ∧
      ∀ line ∈ others, Anchored line := by
  induction text generalizing after with
  | nil => exact ⟨[], [], rfl, rfl, fun _ inside => absurd inside List.not_mem_nil⟩
  | cons char rest ih =>
      rw [anchoredAfter, Bool.and_eq_true] at anchored
      obtain ⟨first, others, cut, starts, behind⟩ := ih anchored.2
      rw [lines] at cut
      rw [lines, split, cut]
      by_cases feed : char = '\n'
      · have gap : isBlank char = true := by rw [feed]; decide
        rw [gap] at starts
        refine ⟨[], first :: others, if_pos (by simpa using feed), rfl, ?_⟩
        exact List.forall_mem_cons.2 ⟨starts, behind⟩
      · refine ⟨char :: first, others, if_neg (by simpa using feed), ?_, behind⟩
        rw [anchoredAfter, anchored.1, starts]
        rfl

/-- The lines of a text whose words start with characters that have columns show all of it, blanks
aside. -/
theorem solid_paragraph (wide : 3 ≤ width) (anchored : Anchored text) :
    solid (join (paragraph .fold width text)) = solid text := by
  have spaced : ∀ line ∈ lines text, Anchored (expandTabs line) := by
    obtain ⟨first, others, cut, starts, behind⟩ := exists_lines_cons anchored
    rw [cut, List.forall_mem_cons]
    exact ⟨anchoredAfter_expandTabsFrom 0 starts,
      fun line inside => anchoredAfter_expandTabsFrom 0 (behind line inside)⟩
  rw [solid_join_paragraph, ← solid_lines text]
  apply List.flatMap_congr
  intro line inside
  rw [← solid_expandTabs line, ← flatMap_solid_broken width (expandTabs line)]
  exact List.flatMap_congr (solid_settled_broken wide (spaced line inside))

end Paragraph

end Layout

end CommandShell
