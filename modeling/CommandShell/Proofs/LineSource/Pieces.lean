import CommandShell.Proofs.LineSource.Stream

/-!
A text stream read to its end and beyond. `reads_ofText` says that the answers are the pieces of the
text between its line feeds, each once and in order, and then none for ever.
-/

namespace CommandShell.LineStream

/-- A carriage return goes where a line feed follows it. -/
def mergeReturns : List Char → List Char
  | [] => []
  | char :: rest =>
      if char = '\r' ∧ rest.head? = some '\n' then mergeReturns rest else char :: mergeReturns rest

/-- A text as it stands in a stream. With other line ends, each of them has become a line feed. -/
def translated (universal : Bool) (text : List Char) : List Char :=
  if universal then (mergeReturns text).map fun char => if char = '\r' then '\n' else char else text

/-- What stands between the line feeds of a text, without an empty piece after the last of them. -/
def pieces (text : List Char) : List (List Char) :=
  if (text.splitOn '\n').getLast? = some [] then (text.splitOn '\n').dropLast
  else text.splitOn '\n'

/-- The lines of a text are its pieces without the carriage returns at their ends. -/
def lines (text : List Char) : List String :=
  (pieces text).map fun piece => String.ofList (piece.rdropWhile (· == '\r'))

/-- Every line feed of a text gets a carriage return. -/
def withReturns (text : List Char) : List Char :=
  text.flatMap fun char => if char = '\n' then ['\r', '\n'] else [char]

section Translation

variable {text : List Char}

theorem unifyLineEnds_eq_translated (text : List Char) :
    unifyLineEnds text = translated true text := by
  rw [translated, if_pos rfl]
  fun_induction unifyLineEnds text with
  | case1 rest ih => simp [mergeReturns, ih]
  | case2 rest unpaired ih =>
      have alone : ¬ rest.head? = some '\n' := by
        intro paired
        cases rest with
        | nil => cases paired
        | cons next others =>
            rw [List.head?_cons, Option.some.injEq] at paired
            exact unpaired others (by rw [paired])
      simp [mergeReturns, alone, ih]
  | case3 char rest _ single ih =>
      have other : char ≠ '\r' := by
        rintro rfl
        exact single rfl
      simp [mergeReturns, other, ih]
  | case4 => rfl

theorem rest_ofText (universal : Bool) (text : String) (failure? : Option Failure) :
    ofText universal text failure? = ⟨translated universal text.toList, failure?⟩ := by
  cases universal with
  | false => rfl
  | true => rw [ofText, if_pos rfl, unifyLineEnds_eq_translated]

theorem withReturns_cons_feed (rest : List Char) :
    withReturns ('\n' :: rest) = '\r' :: '\n' :: withReturns rest := rfl

theorem withReturns_eq_self (free : ∀ char ∈ text, char ≠ '\n') : withReturns text = text := by
  have single : ∀ char ∈ text, (if char = '\n' then ['\r', '\n'] else [char]) = [char] := by
    intro char inside
    rw [if_neg (free char inside)]
  rw [withReturns, List.flatMap_congr single, List.flatMap_singleton']

theorem mergeReturns_withReturns (free : ∀ char ∈ text, char ≠ '\r') :
    mergeReturns (withReturns text) = text := by
  induction text with
  | nil => rfl
  | cons char rest ih =>
      have others := ih fun other inside => free other (List.mem_cons_of_mem _ inside)
      by_cases feed : char = '\n'
      · subst feed
        simp [withReturns_cons_feed, mergeReturns, others]
      · have kept : withReturns (char :: rest) = char :: withReturns rest := by
          simp [withReturns, feed]
        have single := free char List.mem_cons_self
        simp [kept, mergeReturns, single, others]

theorem translated_of_free (free : ∀ char ∈ text, char ≠ '\r') (universal : Bool) :
    translated universal text = text := by
  cases universal with
  | false => rfl
  | true => rw [← unifyLineEnds_eq_translated, unifyLineEnds_eq_self free]

/-- Pairs of a carriage return and a line feed are translated back. -/
theorem translated_withReturns (free : ∀ char ∈ text, char ≠ '\r') :
    translated true (withReturns text) = text := by
  have unchanged : ∀ char ∈ text, (if char = '\r' then '\n' else char) = char := by
    intro char inside
    rw [if_neg (free char inside)]
  rw [translated, if_pos rfl, mergeReturns_withReturns free, List.map_congr_left unchanged,
    List.map_id']

end Translation

section Lines

variable {line rest : List Char}

/-- A text is empty, or a line that nothing closes, or a line with its feed and then another text. -/
@[elab_as_elim]
theorem line_induction {motive : List Char → Prop} (nil : motive [])
    (last : ∀ line, line ≠ [] → (∀ char ∈ line, char ≠ '\n') → motive line)
    (next : ∀ line rest, (∀ char ∈ line, char ≠ '\n') → motive rest →
      motive (line ++ '\n' :: rest)) (text : List Char) : motive text := by
  by_cases fed : '\n' ∈ text
  · obtain ⟨line, rest, whole, free⟩ := List.eq_append_cons_of_mem fed
    have shorter : rest.length < text.length := by
      rw [whole, List.length_append, List.length_cons]
      omega
    rw [whole]
    exact next line rest (fun char inside feed => free (feed ▸ inside))
      (line_induction nil last next rest)
  · by_cases empty : text = []
    · rw [empty]
      exact nil
    · exact last text empty fun char inside feed => fed (feed ▸ inside)
termination_by text.length

theorem lines_nil : lines [] = [] := rfl

theorem lines_last (nonempty : line ≠ []) (free : ∀ char ∈ line, char ≠ '\n') :
    lines line = [String.ofList (line.rdropWhile (· == '\r'))] := by
  have whole : line.splitOn '\n' = [line] := by
    rw [List.splitOn_eq_splitOnP]
    exact List.splitOnP_eq_singleton (by simpa using free)
  simp [lines, pieces, whole, nonempty]

theorem lines_next (free : ∀ char ∈ line, char ≠ '\n') (rest : List Char) :
    lines (line ++ '\n' :: rest) =
      String.ofList (line.rdropWhile (· == '\r')) :: lines rest := by
  have whole : (line ++ '\n' :: rest).splitOn '\n' = line :: rest.splitOn '\n' := by
    rw [List.splitOn_eq_splitOnP, List.splitOnP_append_cons_of_forall_mem (by simpa using free) _ rfl,
      List.splitOn_eq_splitOnP]
  have others : rest.splitOn '\n' ≠ [] := List.splitOn_ne_nil _ _
  rw [lines, lines, pieces, pieces, whole, List.getLast?_cons_of_ne_nil others,
    List.dropLast_cons_of_ne_nil others]
  split
  · rw [List.map_cons]
  · rw [List.map_cons]

/-- Carriage returns at the end of a line are no part of it. -/
theorem lines_withReturns (text : List Char) : lines (withReturns text) = lines text := by
  induction text using line_induction with
  | nil => rfl
  | last line nonempty free => rw [withReturns_eq_self free]
  | next line rest free ih =>
      have returned : withReturns (line ++ '\n' :: rest) =
          (line ++ ['\r']) ++ '\n' :: withReturns rest := by
        rw [withReturns, List.flatMap_append, ← withReturns, ← withReturns, withReturns_eq_self free,
          withReturns_cons_feed]
        simp
      have free' : ∀ char ∈ line ++ ['\r'], char ≠ '\n' := by
        intro char inside
        rcases List.mem_append.1 inside with old | new
        · exact free char old
        · rw [List.mem_singleton.1 new]
          decide
      rw [returned, lines_next free', lines_next free, ih, List.rdropWhile_concat_pos _ _ _ rfl]

theorem Unbroken.rdropWhile (unbroken : Unbroken line) : line.rdropWhile (· == '\r') = line := by
  rw [List.rdropWhile_eq_self_iff]
  intro nonempty
  simpa using unbroken.ne_return _ (List.getLast_mem nonempty)

/-- Lines that nothing breaks are the lines of the text that they make up, and so is what stands
after the last line feed. -/
theorem lines_of_unbroken {whole : List String} (unbroken : ∀ line ∈ whole, Unbroken line.toList)
    {last : String} (unbroken' : Unbroken last.toList) :
    lines (whole.flatMap (·.toList ++ ['\n']) ++ last.toList) =
      whole ++ if last = "" then [] else [last] := by
  induction whole with
  | nil =>
      by_cases empty : last = ""
      · simp [empty, lines_nil]
      · have nonempty : last.toList ≠ [] := by simpa using empty
        rw [List.flatMap_nil, List.nil_append, lines_last nonempty unbroken'.ne_feed,
          unbroken'.rdropWhile, String.ofList_toList, if_neg empty, List.nil_append]
  | cons line others ih =>
      have first := unbroken line List.mem_cons_self
      have later := ih fun other inside => unbroken other (List.mem_cons_of_mem _ inside)
      rw [List.flatMap_cons, List.append_assoc, List.append_assoc, List.singleton_append,
        lines_next first.ne_feed, first.rdropWhile, later, String.ofList_toList, List.cons_append]

end Lines

section Reading

theorem rdropWhile_isLineEnd {line : List Char} (free : ∀ char ∈ line, char ≠ '\n') :
    line.rdropWhile isLineEnd = line.rdropWhile (· == '\r') := by
  induction line using List.reverseRecOn with
  | nil => rfl
  | append_singleton front char ih =>
      have others := ih fun other inside => free other (List.mem_append_left _ inside)
      have unfed : char ≠ '\n' := free char (by simp)
      by_cases returned : char = '\r'
      · subst returned
        rw [List.rdropWhile_concat_pos _ _ _ rfl, List.rdropWhile_concat_pos _ _ _ rfl, others]
      · rw [List.rdropWhile_concat_neg _ _ _ (by simp [isLineEnd, returned, unfed]),
          List.rdropWhile_concat_neg _ _ _ (by simpa using returned)]

theorem cutLine_last {line : List Char} (free : ∀ char ∈ line, char ≠ '\n') :
    cutLine line = (line, []) := by
  induction line with
  | nil => rfl
  | cons char rest ih =>
      have others := ih fun other inside => free other (List.mem_cons_of_mem _ inside)
      rw [cutLine, if_neg (free char List.mem_cons_self), others]

/-- The first line is read, and the others stay to be read. -/
theorem read_lines (prompt : String) (text : List Char) :
    ∃ rest, lines rest = (lines text).tail ∧
      source.read prompt ⟨text, none⟩ =
        ⟨.ok (lines text).head?, ⟨rest, none⟩, [.deed (.write prompt), .deed .flush]⟩ := by
  induction text using line_induction with
  | nil => exact ⟨[], rfl, rfl⟩
  | last line nonempty free =>
      have more : line.isEmpty = false := by simpa using nonempty
      have ends : Text.trimEnd isLineEnd line = line.rdropWhile (· == '\r') :=
        rdropWhile_isLineEnd free
      refine ⟨[], ?_, ?_⟩
      · rw [lines_last nonempty free, lines_nil, List.tail_cons]
      · simp [source, read, more, cutLine_last free, ends, lines_last nonempty free]
  | next line rest free _ =>
      have more : (line ++ '\n' :: rest).isEmpty = false := by simp
      have ends : Text.trimEnd isLineEnd (line ++ ['\n']) = line.rdropWhile (· == '\r') :=
        (List.rdropWhile_concat_pos _ _ _ rfl).trans (rdropWhile_isLineEnd free)
      refine ⟨rest, ?_, ?_⟩
      · rw [lines_next free, List.tail_cons]
      · simp [source, read, more, cutLine_feed free rest, ends, lines_next free]

/-- Read a line for each prompt. -/
def readEach : List String → Step LineStream (List (Option String))
  | [] => pure []
  | prompt :: prompts => do
      let line? ← source.read prompt
      let others ← readEach prompts
      return line? :: others

theorem readEach_lines (prompts : List String) (text : List Char) :
    ∃ later, readEach prompts ⟨text, none⟩ =
      ⟨.ok ((List.range prompts.length).map fun index => (lines text)[index]?), later,
        prompts.flatMap fun prompt => [.deed (.write prompt), .deed .flush]⟩ := by
  induction prompts generalizing text with
  | nil => exact ⟨_, rfl⟩
  | cons prompt prompts ih =>
      obtain ⟨rest, others, first⟩ := read_lines prompt text
      obtain ⟨later, after⟩ := ih rest
      have answers : (List.range (prompt :: prompts).length).map (fun index => (lines text)[index]?) =
          (lines text).head? ::
            (List.range prompts.length).map fun index => (lines rest)[index]? := by
        rw [List.length_cons, List.range_succ_eq_map, List.map_cons, List.map_map,
          List.head?_eq_getElem?, others]
        simp [Function.comp_def]
      refine ⟨later, Step.bind_eq_ok_iff.2 ⟨_, _, _, _, first,
        Step.bind_eq_ok_iff.2 ⟨_, _, _, _, after,
          Step.pure_eq_ok_iff.2 ⟨answers.symm, rfl, rfl⟩, rfl⟩, ?_⟩⟩
      rw [List.flatMap_cons, List.append_nil]

end Reading

/-- How a text is read, with other line ends or without them. -/
structure Reads (universal : Bool) (text : String) : Prop where
  /-- The answers are the lines in order, and none after the last line. Each call writes its prompt
  and flushes once. -/
  answers : ∀ prompts, ∃ later,
    readEach prompts (ofText universal text none) =
      ⟨.ok ((List.range prompts.length).map fun index =>
          (lines (translated universal text.toList))[index]?), later,
        prompts.flatMap fun prompt => [.deed (.write prompt), .deed .flush]⟩
  /-- Lines that nothing breaks come back as they are. -/
  unchanged : ∀ whole last, (∀ line ∈ whole, Unbroken line.toList) → Unbroken last.toList →
    text = String.join (whole.map (· ++ "\n")) ++ last →
      lines (translated universal text.toList) = whole ++ if last = "" then [] else [last]
  /-- A carriage return before every line feed makes no difference. -/
  returned : (∀ char ∈ text.toList, char ≠ '\r') → ∀ prompts,
    (readEach prompts (ofText universal (String.ofList (withReturns text.toList)) none)).answer =
      (readEach prompts (ofText false text none)).answer

/-- Every line of a text is read once, and there is no end before the end of the text. -/
theorem reads_ofText (universal : Bool) (text : String) : Reads universal text := by
  constructor
  case answers =>
    intro prompts
    rw [rest_ofText]
    exact readEach_lines prompts _
  case unchanged =>
    rintro whole last unbroken unbroken' rfl
    have free : ∀ char ∈ whole.flatMap (·.toList ++ ['\n']) ++ last.toList, char ≠ '\r' := by
      intro char inside
      rcases List.mem_append.1 inside with closed | open'
      · exact ne_return_of_mem_feeds unbroken char closed
      · exact unbroken'.ne_return char open'
    rw [String.toList_append, toList_join_feeds, translated_of_free free,
      lines_of_unbroken unbroken unbroken']
  case returned =>
    intro free prompts
    obtain ⟨_, plain⟩ := readEach_lines prompts (translated false text.toList)
    obtain ⟨_, paired⟩ := readEach_lines prompts
      (translated universal (String.ofList (withReturns text.toList)).toList)
    have same : lines (translated universal (String.ofList (withReturns text.toList)).toList) =
        lines (translated false text.toList) := by
      rw [String.toList_ofList]
      cases universal with
      | false => exact lines_withReturns _
      | true => rw [translated_withReturns free, translated, if_neg (by decide)]
    rw [rest_ofText, rest_ofText, plain, paired, same]

end CommandShell.LineStream
