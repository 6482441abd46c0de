import CommandShell.Proofs.Console.Legible
import CommandShell.Proofs.Console.Narrow
import CommandShell.Proofs.Diagnosis.Decision

/-!
The rows of a diagnosis on a console with styles. `Diagnosis.styledTable_cases` says that each check
has its row, in the order of the checks, or that the value of some check cannot be shown.
-/

namespace CommandShell

namespace Markup

open Text

variable {text : List Char}

/-- A text without tags has no style. -/
theorem styled_of_plainly (plainly : Plainly text) : styled text = .ok ⟨visible text, []⟩ := by
  have found := styledFrom_plain [] 0 text []
  rw [List.append_nil, styledFrom] at found
  rw [styled, tokens, plainly, found]
  simp [Except.map, bind, Except.bind, pure, Except.pure]

theorem paragraph_unstyled (overflow : Layout.Overflow) (width : ℕ) :
    StyledText.paragraph ⟨text, []⟩ overflow width = .ok (Layout.paragraph overflow width text) :=
  rfl

theorem ne_nil_of_paragraph {value : StyledText} {overflow : Layout.Overflow} {width : ℕ}
    {lines : List (List Char)} (shown : value.paragraph overflow width = .ok lines) : lines ≠ [] := by
  rw [StyledText.paragraph] at shown
  split at shown
  · cases shown
  · cases shown
    exact Layout.paragraph_ne_nil _ _ _

/-- Words in one style are shown without their tags. -/
theorem Names.exists_styled {style words : List Char} (names : Names style) (wordy : Wordy words)
    (same : visible words = words) :
    ∃ shown, Markup.styled (marked [] style words []) = .ok shown ∧ shown.text = words ∧
      ∀ overflow width, shown.paragraph overflow width =
        .ok (Layout.paragraph overflow width words) := by
  have nothing : Plainly [] := plainly_of_bracketless List.not_mem_nil
  obtain ⟨text, start, finish, shown⟩ :=
    names.styled ⟨List.not_mem_nil, List.not_mem_nil⟩ wordy nothing
  obtain ⟨place, plain⟩ := Console.exists_plainText names wordy []
  have words_eq : text = words := by
    have found := text_of_styled shown
    have empty : visible [] = [] := rfl
    rwa [plain, nothing, plainText_plain, same, empty, List.append_nil] at found
  have sound : Style.failure? (String.ofList style) = none := by
    rw [Style.failure?, names.normal]
  refine ⟨_, shown, words_eq, fun overflow width => ?_⟩
  simp [StyledText.paragraph, StyledText.failure?, sound, words_eq]

end Markup

namespace CheckStatus

/-- A status as it is shown. -/
def words : CheckStatus → String
  | .fine => "OK"
  | .tooOld => "FAIL (>=3.10 required)"
  | .failed => "FAIL"
  | .warned => "WARN"

/-- A status is shown in one style. -/
theorem exists_marked (status : CheckStatus) : ∃ style, Markup.Names style ∧
    status.markup.toList = Markup.marked [] style status.words.toList [] := by
  cases status with
  | fine => exact ⟨_, Markup.names_of_mem "green" (by decide), by decide +kernel⟩
  | tooOld => exact ⟨_, Markup.names_of_mem "red" (by decide), by decide +kernel⟩
  | failed => exact ⟨_, Markup.names_of_mem "red" (by decide), by decide +kernel⟩
  | warned => exact ⟨_, Markup.names_of_mem "yellow" (by decide), by decide +kernel⟩

end CheckStatus

namespace Diagnosis

open Markup

section Row

variable {border : String} {valueWidth statusWidth : ℕ} {label value status : StyledText}
  {name words first : List Char} {more : List (List Char)} {failure : Failure}

/-- A line of the table. -/
def tableLine (border : String) (name value words : List Char) : String :=
  border ++ border.intercalate [" " ++ String.ofList name ++ " ", " " ++ String.ofList value ++ " ",
    " " ++ String.ofList words ++ " "] ++ border ++ "\n"

/-- A row of the table. Its label and its status stand on the first line of its value. -/
def rowText (border : String) (valueWidth statusWidth : ℕ) (name words first : List Char)
    (more : List (List Char)) : String :=
  tableLine border (Layout.left 12 name) (Layout.left valueWidth first)
      (Layout.centre statusWidth words) ++
    String.join (more.map fun line => tableLine border (List.replicate 12 ' ')
      (Layout.left valueWidth line) (List.replicate statusWidth ' '))

theorem styledRow_eq (labels : label.paragraph .ellipsis 12 = .ok [name])
    (values : value.paragraph .ellipsis valueWidth = .ok (first :: more))
    (statuses : status.paragraph .ellipsis statusWidth = .ok [words]) :
    styledRow border [12, valueWidth, statusWidth] [label, value, status] =
      .ok (rowText border valueWidth statusWidth name words first more) := by
  have height : [1, more.length + 1, 1].foldl max 1 = more.length + 1 := by
    simp
  simp only [styledRow, List.zip_cons_cons, List.zip_nil_left, List.mapM_cons, List.mapM_nil, labels,
    values, statuses, bind, Except.bind, pure, Except.pure, List.map_cons, List.map_nil,
    List.length_cons, List.length_nil, List.length_map, Nat.zero_add, height]
  rw [List.range_succ_eq_map, List.map_cons, String.join_cons, List.map_map, rowText]
  congr 3
  apply List.ext_getElem
  · simp
  · intro index inside inside'
    have listed : index < more.length := by simpa using inside'
    simp [tableLine, listed]

theorem styledRow_error (labels : label.paragraph .ellipsis 12 = .ok [name])
    (values : value.paragraph .ellipsis valueWidth = .error failure) :
    styledRow border [12, valueWidth, statusWidth] [label, value, status] = .error failure := by
  simp only [styledRow, List.zip_cons_cons, List.mapM_cons, labels, values,
    bind, Except.bind, pure, Except.pure]

end Row

section Traverse

variable {A B : Type} {f : A → Except Failure B} {failure : Failure}

/-- A traversal that succeeds has a result for each element. -/
theorem forall₂_of_mapM {list : List A} {results : List B} (done : list.mapM f = .ok results) :
    List.Forall₂ (fun element result => f element = .ok result) list results := by
  induction list generalizing results with
  | nil =>
      cases done
      exact .nil
  | cons element rest ih =>
      rw [List.mapM_cons] at done
      rcases first : f element with failure | result
      · rw [first] at done
        cases done
      · rcases later : rest.mapM f with failure | results'
        · simp [first, later, bind, Except.bind] at done
        · simp only [first, later, bind, Except.bind, pure, Except.pure] at done
          cases done
          exact .cons first (ih later)

/-- A traversal fails with the failure of one of the elements. -/
theorem exists_mem_of_mapM {list : List A} (failed : list.mapM f = .error failure) :
    ∃ element ∈ list, f element = .error failure := by
  induction list with
  | nil => cases failed
  | cons element rest ih =>
      rw [List.mapM_cons] at failed
      rcases first : f element with failure' | result
      · rw [first] at failed
        cases failed
        exact ⟨element, List.mem_cons_self, first⟩
      · rcases later : rest.mapM f with failure' | results
        · simp only [first, later, bind, Except.bind] at failed
          cases failed
          obtain ⟨other, inside, fails⟩ := ih later
          exact ⟨other, List.mem_cons_of_mem _ inside, fails⟩
        · simp [first, later, bind, Except.bind, pure, Except.pure] at failed

theorem exists_mem_of_forall₂ {R : A → B → Prop} {list : List A} {results : List B}
    (related : List.Forall₂ R list results) {element : A} (inside : element ∈ list) :
    ∃ result ∈ results, R element result := by
  induction related with
  | nil => cases inside
  | @cons _ result _ _ first _ ih =>
      rcases List.mem_cons.1 inside with rfl | later
      · exact ⟨result, List.mem_cons_self, first⟩
      · obtain ⟨other, listed, same⟩ := ih later
        exact ⟨other, List.mem_cons_of_mem _ listed, same⟩

end Traverse

section Widths

/-- The widths of columns for rows of a label, a value and a status. -/
structure Fitting (valueWidth statusWidth : ℕ) (rows : List (List (List Char))) : Prop where
  wide : 20 ≤ valueWidth
  least : 8 ≤ statusWidth
  narrow : statusWidth ≤ 22
  statuses : ∀ name value words, [name, value, words] ∈ rows → Layout.breadth words ≤ statusWidth
  values : ∀ name value words, [name, value, words] ∈ rows →
    Layout.breadth value + statusWidth ≤ 58 → Layout.breadth value ≤ valueWidth

/-- Rows of a short label, a value and a short status. -/
def Regular (rows : List (List (List Char))) : Prop :=
  ∀ row ∈ rows, ∃ name value words, row = [name, value, words] ∧ Layout.breadth name ≤ 12 ∧
    Layout.breadth words ≤ 22

theorem exists_foldl_widths {rows : List (List (List Char))} (regular : Regular rows)
    {valueWidth statusWidth : ℕ} (narrow : statusWidth ≤ 22) : ∃ valueWidth' statusWidth',
      rows.foldl (fun widths row => List.zipWith (fun width cell => max width (Layout.breadth cell))
        widths row) [12, valueWidth, statusWidth] = [12, valueWidth', statusWidth'] ∧
      valueWidth ≤ valueWidth' ∧ statusWidth ≤ statusWidth' ∧ statusWidth' ≤ 22 ∧
      ∀ name value words, [name, value, words] ∈ rows →
        Layout.breadth value ≤ valueWidth' ∧ Layout.breadth words ≤ statusWidth' := by
  induction rows generalizing valueWidth statusWidth with
  | nil => exact ⟨_, _, rfl, le_rfl, le_rfl, narrow, fun _ _ _ inside => nomatch inside⟩
  | cons row rest ih =>
      obtain ⟨⟨name, value, words, rfl, short, small⟩, others⟩ := List.forall_mem_cons.1 regular
      obtain ⟨valueWidth', statusWidth', folded, wider, wider', narrow', fits⟩ :=
        @ih others (max valueWidth (Layout.breadth value)) (max statusWidth (Layout.breadth words))
          (max_le narrow small)
      refine ⟨valueWidth', statusWidth', ?_, by omega, by omega, narrow', ?_⟩
      · rw [List.foldl_cons]
        simpa [max_eq_left short] using folded
      · intro name' value' words' inside
        rcases List.mem_cons.1 inside with same | later
        · cases same
          omega
        · exact fits name' value' words' later

theorem exists_columnWidths {rows : List (List (List Char))} (regular : Regular rows) :
    ∃ valueWidth statusWidth, columnWidths rows = [12, valueWidth, statusWidth] ∧
      Fitting valueWidth statusWidth rows := by
  obtain ⟨natural, statusWidth, folded, least, least', narrow, fits⟩ :=
    @exists_foldl_widths rows regular 20 8 (by decide)
  have whole : columnWidths rows =
      [12, natural - (10 + 12 + natural + statusWidth - 80), statusWidth] := by
    rw [columnWidths, naturalWidths, leastWidths, folded]
    rfl
  refine ⟨_, statusWidth, whole, by omega, least', narrow, ?_, ?_⟩
  · intro name value words inside
    exact (fits name value words inside).2
  · intro name value words inside room
    have wide := (fits name value words inside).1
    omega

end Widths

section Rows

variable {checks : List Check} {check : Check} {failure : Failure}

/-- A short text that is shown as it is, on a line of its own. -/
@[mk_iff]
structure Ordinary (limit : ℕ) (text : List Char) : Prop where
  wordy : Wordy text
  visible : visible text = text
  drawn : Text.Drawn text
  narrow : Text.columns text ≤ limit

instance (limit : ℕ) (text : List Char) : Decidable (Ordinary limit text) :=
  decidable_of_iff _ (ordinary_iff limit text).symm

theorem ordinary_words (status : CheckStatus) : Ordinary 22 status.words.toList := by
  cases status with
  | fine => decide +kernel
  | tooOld => decide +kernel
  | failed => decide +kernel
  | warned => decide +kernel

/-- What the cells of a check show: its label, what becomes of its value, and its status. -/
structure Cells (check : Check) (value : StyledText) (row : List StyledText) : Prop where
  found : styled check.value.toList = .ok value
  shape : ∃ status, row = [⟨check.label.toList, []⟩, value, status] ∧
    status.text = check.status.words.toList ∧ ∀ overflow width,
      status.paragraph overflow width =
        .ok (Layout.paragraph overflow width check.status.words.toList)

theorem cells_mapM (label : Ordinary 12 check.label.toList) :
    ∃ status : StyledText, status.text = check.status.words.toList ∧
      (∀ overflow width, status.paragraph overflow width =
        .ok (Layout.paragraph overflow width check.status.words.toList)) ∧
      ((cells check).mapM fun cell => styled cell.toList) =
        (styled check.value.toList).map fun value => [⟨check.label.toList, []⟩, value, status] := by
  obtain ⟨style, names, marked⟩ := check.status.exists_marked
  have words := ordinary_words check.status
  obtain ⟨status, shown, text, paragraph⟩ := names.exists_styled words.wordy words.visible
  refine ⟨status, text, paragraph, ?_⟩
  have named := styled_of_plainly (plainly_of_bracketless label.wordy.bracketless)
  rw [label.visible] at named
  rw [← marked] at shown
  simp only [cells, List.mapM_cons, List.mapM_nil, named, shown, bind, Except.bind, pure, Except.pure]
  cases styled check.value.toList with
  | error failure => rfl
  | ok value => rfl

theorem exists_cells {row : List StyledText} (label : Ordinary 12 check.label.toList)
    (shown : ((cells check).mapM fun cell => styled cell.toList) = .ok row) :
    ∃ value, Cells check value row := by
  obtain ⟨status, text, paragraph, whole⟩ := cells_mapM label
  rw [whole] at shown
  rcases found : styled check.value.toList with failure | value
  · rw [found] at shown
    cases shown
  · rw [found] at shown
    cases shown
    exact ⟨value, found, status, rfl, text, paragraph⟩

theorem styled_of_cells_error (label : Ordinary 12 check.label.toList)
    (failed : ((cells check).mapM fun cell => styled cell.toList) = .error failure) :
    styled check.value.toList = .error failure := by
  obtain ⟨status, _, _, whole⟩ := cells_mapM label
  rw [whole] at failed
  rcases found : styled check.value.toList with failure' | value
  · rw [found] at failed
    cases failed
    rfl
  · rw [found] at failed
    cases failed

theorem forall₂_cells {rows : List (List StyledText)}
    (labels : ∀ check ∈ checks, Ordinary 12 check.label.toList)
    (shown : List.Forall₂ (fun check row =>
      ((cells check).mapM fun cell => styled cell.toList) = .ok row) checks rows) :
    List.Forall₂ (fun check row => ∃ value, Cells check value row) checks rows := by
  induction shown with
  | nil => exact .nil
  | cons first later ih =>
      obtain ⟨label, labels⟩ := List.forall_mem_cons.1 labels
      exact .cons (exists_cells label first) (ih labels)

theorem Ordinary.paragraph {limit width : ℕ} {text : List Char} (ordinary : Ordinary limit text)
    (room : Text.columns text ≤ width) (overflow : Layout.Overflow) :
    Layout.paragraph overflow width text = [text] :=
  Layout.paragraph_of_narrow ordinary.drawn room

/-- The row of a check. A value that is shown as it is, and for which there is room, stands on one
line. -/
structure Row (valueWidth statusWidth : ℕ) (check : Check) (block : String) : Prop where
  lines : ∃ value first more, styled check.value.toList = .ok value ∧
    value.paragraph .ellipsis valueWidth = .ok (first :: more) ∧
    block = rowText "│" valueWidth statusWidth check.label.toList check.status.words.toList first more
  whole : Legible check.value.toList → Text.Drawn check.value.toList →
    Text.columns check.value.toList + statusWidth ≤ 58 →
      block = tableLine "│" (Layout.left 12 check.label.toList)
        (Layout.left valueWidth check.value.toList)
        (Layout.centre statusWidth check.status.words.toList)

theorem visible_of_drawn {text : List Char} (legible : Legible text) (drawn : Text.Drawn text) :
    visible text = text := by
  have shown : ∀ char ∈ text, isHidden char = false := drawn.contains_eq_false (by decide +kernel)
  rw [legible.visible_eq, List.filter_eq_self]
  exact fun char inside => by rw [shown char inside]; rfl

/-- The texts of the rows of a table, below those of its header. -/
def rowTexts (rows : List (List StyledText)) : List (List (List Char)) :=
  (headers.map String.toList) :: rows.map fun row => row.map (·.text)

theorem styledTable_eq (checks : List Check) : styledTable checks = (do
    let rows ← checks.mapM fun check => (cells check).mapM fun cell => styled cell.toList
    let widths := columnWidths (rowTexts rows)
    let top ← styledRow "┃" widths (headers.map fun label => ⟨label.toList, []⟩)
    let body ← rows.mapM (styledRow "│" widths)
    return String.ofList (Layout.centre (widths.foldl (· + ·) frameWidth) title.toList) ++ "\n" ++
      frame "┏" "━" "┳" "┓" widths ++ top ++ frame "┡" "━" "╇" "┩" widths ++ String.join body ++
      frame "└" "─" "┴" "┘" widths) := rfl

theorem Cells.texts {value : StyledText} {row : List StyledText} (found : Cells check value row) :
    row.map (·.text) =
      [check.label.toList, value.text, check.status.words.toList] := by
  obtain ⟨status, rfl, text, _⟩ := found.shape
  rw [← text]
  rfl

theorem regular_rowTexts {rows : List (List StyledText)}
    (labels : ∀ check ∈ checks, Ordinary 12 check.label.toList)
    (shown : List.Forall₂ (fun check row => ∃ value, Cells check value row) checks rows) :
    Regular (rowTexts rows) := by
  refine List.forall_mem_cons.2 ⟨⟨_, _, _, rfl, by decide +kernel, by decide +kernel⟩, ?_⟩
  induction shown with
  | nil => exact fun _ inside => nomatch inside
  | @cons check row checks rows found others ih =>
      obtain ⟨value, found⟩ := found
      obtain ⟨label, labels⟩ := List.forall_mem_cons.1 labels
      have words := ordinary_words check.status
      refine List.forall_mem_cons.2 ⟨⟨_, _, _, found.texts, ?_, ?_⟩, ih labels⟩
      · exact (Layout.breadth_of_drawn label.drawn).le.trans label.narrow
      · exact (Layout.breadth_of_drawn words.drawn).le.trans words.narrow

section Block

variable {valueWidth statusWidth : ℕ} {rows : List (List StyledText)} {row : List StyledText}
  {value : StyledText} {block : String}

theorem Cells.mem_rowTexts (found : Cells check value row) (listed : row ∈ rows) :
    [check.label.toList, value.text, check.status.words.toList] ∈ rowTexts rows :=
  List.mem_cons_of_mem _ (List.mem_map.2 ⟨row, listed, found.texts⟩)

theorem Cells.status_narrow (found : Cells check value row) (listed : row ∈ rows)
    (fitting : Fitting valueWidth statusWidth (rowTexts rows)) :
    Text.columns check.status.words.toList ≤ statusWidth := by
  have bound := fitting.statuses _ _ _ (found.mem_rowTexts listed)
  rwa [Layout.breadth_of_drawn (ordinary_words check.status).drawn] at bound

/-- Only the value of a check can keep its row from being shown. -/
theorem Cells.styledRow_cases (found : Cells check value row)
    (label : Ordinary 12 check.label.toList) (listed : row ∈ rows)
    (fitting : Fitting valueWidth statusWidth (rowTexts rows)) :
    (∃ failure, value.paragraph .ellipsis valueWidth = .error failure ∧
      styledRow "│" [12, valueWidth, statusWidth] row = .error failure) ∨
    ∃ block, styledRow "│" [12, valueWidth, statusWidth] row = .ok block ∧
      Row valueWidth statusWidth check block := by
  obtain ⟨status, rfl, text, paragraph⟩ := found.shape
  have labels : StyledText.paragraph ⟨check.label.toList, []⟩ .ellipsis 12 =
      .ok [check.label.toList] := by
    rw [paragraph_unstyled, label.paragraph label.narrow]
  have statuses : status.paragraph .ellipsis statusWidth = .ok [check.status.words.toList] := by
    rw [paragraph, (ordinary_words check.status).paragraph (found.status_narrow listed fitting)]
  rcases values : value.paragraph .ellipsis valueWidth with failure | lines
  · exact .inl ⟨failure, rfl, styledRow_error labels values⟩
  · obtain ⟨first, more, rfl⟩ := List.exists_cons_of_ne_nil (ne_nil_of_paragraph values)
    refine .inr ⟨_, styledRow_eq labels values statuses,
      ⟨value, first, more, found.found, values, rfl⟩, ?_⟩
    intro legible drawn room
    have plain := styled_of_plainly legible.plainly
    rw [visible_of_drawn legible drawn, found.found] at plain
    cases plain
    have wide : Text.columns check.value.toList ≤ valueWidth := by
      rw [← Layout.breadth_of_drawn drawn] at room ⊢
      exact fitting.values _ _ _ (found.mem_rowTexts listed) room
    rw [paragraph_unstyled, Layout.paragraph_of_narrow drawn wide] at values
    cases values
    simp [rowText]

/-- Rows that are laid out are those of the checks, in their order. -/
theorem forall₂_row {laid : List (List StyledText)} {blocks : List String}
    (labels : ∀ check ∈ checks, Ordinary 12 check.label.toList)
    (fitting : Fitting valueWidth statusWidth (rowTexts rows))
    (listed : ∀ row ∈ laid, row ∈ rows)
    (shown : List.Forall₂ (fun check row => ∃ value, Cells check value row) checks laid)
    (done : List.Forall₂ (fun row block =>
      styledRow "│" [12, valueWidth, statusWidth] row = .ok block) laid blocks) :
    List.Forall₂ (Row valueWidth statusWidth) checks blocks := by
  induction shown generalizing blocks with
  | nil =>
      cases done
      exact .nil
  | @cons check row checks laid found others ih =>
      obtain ⟨value, found⟩ := found
      obtain ⟨label, labels⟩ := List.forall_mem_cons.1 labels
      obtain ⟨here, listed⟩ := List.forall_mem_cons.1 listed
      cases done with
      | cons first later =>
          refine .cons ?_ (ih labels listed later)
          rcases found.styledRow_cases label here fitting with ⟨failure, _, failed⟩ | ⟨block, shown, row⟩
          · cases first.symm.trans failed
          · cases first.symm.trans shown
            exact row

end Block

/-- The value of a check cannot be shown. -/
def Unshown (check : Check) (failure : Failure) : Prop :=
  styled check.value.toList = .error failure ∨ ∃ value width,
    styled check.value.toList = .ok value ∧ value.paragraph .ellipsis width = .error failure

/-- The table above its rows: the title and the names of the columns. -/
def tableHead (valueWidth statusWidth : ℕ) : String :=
  String.ofList (Layout.centre (22 + valueWidth + statusWidth) title.toList) ++ "\n" ++
    frame "┏" "━" "┳" "┓" [12, valueWidth, statusWidth] ++
    tableLine "┃" (Layout.left 12 "Component".toList) (Layout.left valueWidth "Value".toList)
      (Layout.centre statusWidth "Status".toList) ++
    frame "┡" "━" "╇" "┩" [12, valueWidth, statusWidth]

theorem styledRow_header {valueWidth statusWidth : ℕ} {rows : List (List (List Char))}
    (fitting : Fitting valueWidth statusWidth rows) :
    styledRow "┃" [12, valueWidth, statusWidth] (headers.map fun label => ⟨label.toList, []⟩) =
      .ok (tableLine "┃" (Layout.left 12 "Component".toList) (Layout.left valueWidth "Value".toList)
        (Layout.centre statusWidth "Status".toList)) := by
  have component : Ordinary 12 "Component".toList := by decide +kernel
  have value : Ordinary 20 "Value".toList := by decide +kernel
  have status : Ordinary 8 "Status".toList := by decide +kernel
  have shown {limit width : ℕ} {text : List Char} (ordinary : Ordinary limit text)
      (room : limit ≤ width) : StyledText.paragraph ⟨text, []⟩ .ellipsis width = .ok [text] := by
    rw [paragraph_unstyled, ordinary.paragraph (ordinary.narrow.trans room)]
  have row : styledRow "┃" [12, valueWidth, statusWidth] [⟨"Component".toList, []⟩,
      ⟨"Value".toList, []⟩, ⟨"Status".toList, []⟩] = .ok (rowText "┃" valueWidth statusWidth
        "Component".toList "Status".toList "Value".toList []) :=
    styledRow_eq (shown component le_rfl) (shown value fitting.wide) (shown status fitting.least)
  rw [rowText, List.map_nil, String.join_nil, String.append_empty] at row
  exact row

/-- A table has a row for each check, in the order of the checks, and it is not shown only when the
value of some check cannot be shown. -/
theorem styledTable_cases (labels : ∀ check ∈ checks, Ordinary 12 check.label.toList) :
    (∃ failure, styledTable checks = .error failure ∧ ∃ check ∈ checks, Unshown check failure) ∨
    ∃ valueWidth statusWidth blocks, statusWidth ≤ 22 ∧
      styledTable checks = .ok (tableHead valueWidth statusWidth ++ String.join blocks ++
        frame "└" "─" "┴" "┘" [12, valueWidth, statusWidth]) ∧
      List.Forall₂ (Row valueWidth statusWidth) checks blocks := by
  rw [styledTable_eq]
  rcases traversed : checks.mapM fun check => (cells check).mapM fun cell => styled cell.toList with
    failure | rows
  · obtain ⟨check, inside, failed⟩ := exists_mem_of_mapM traversed
    have unshown := styled_of_cells_error (labels check inside) failed
    rw [traversed]
    exact .inl ⟨failure, rfl, check, inside, .inl unshown⟩
  · have shown := forall₂_cells labels (forall₂_of_mapM traversed)
    obtain ⟨valueWidth, statusWidth, widths, fitting⟩ :=
      exists_columnWidths (regular_rowTexts labels shown)
    have whole : [12, valueWidth, statusWidth].foldl (· + ·) frameWidth =
        22 + valueWidth + statusWidth := rfl
    simp only [traversed, bind, Except.bind, pure, Except.pure, widths, styledRow_header fitting, whole]
    rcases laid : rows.mapM (styledRow "│" [12, valueWidth, statusWidth]) with failure | blocks
    · obtain ⟨row, listed, failed⟩ := exists_mem_of_mapM laid
      obtain ⟨check, inside, value, found⟩ := exists_mem_of_forall₂ shown.flip listed
      rcases found.styledRow_cases (labels check inside) listed fitting with
        ⟨failure', hides, failed'⟩ | ⟨block, shows, _⟩
      · cases failed.symm.trans failed'
        exact .inl ⟨failure, rfl, check, inside, .inr ⟨value, _, found.found, hides⟩⟩
      · cases failed.symm.trans shows
    · refine .inr ⟨valueWidth, statusWidth, blocks, fitting.narrow, ?_,
        forall₂_row labels fitting (fun _ listed => listed) shown (forall₂_of_mapM laid)⟩
      rfl

end Rows

end Diagnosis

end CommandShell
