import CommandShell.Proofs.Options.Verbose
import Mathlib.Data.List.Perm.Basic

/-!
Command lines as groups of words: an option with its value, a switch, or the target. Groups are read
one after the other and each has its own effect, so their order does not count. `parse_of_perm` says
which options they give, and that the line they hand over is the one that was given, unless it looks
like the separator.
-/

namespace CommandShell

/-- The equals sign is part of no spelling. -/
theorem Flag.ofSpelling?_of_mem {text : String} (equals : '=' ∈ text.toList) :
    ofSpelling? text = none := by
  have equalless : (spelled.all fun entry => !entry.1.toList.contains '=') = true := by decide
  rw [ofSpelling?, List.lookup_eq_none_iff]
  intro entry inside
  have absent := List.all_eq_true.1 equalless entry inside
  rw [bne_iff_ne]
  rintro rfl
  simp [equals] at absent

namespace Word

theorem splitAtEquals_append {stem : List Char} (equalless : '=' ∉ stem) (value : List Char) :
    splitAtEquals (stem ++ '=' :: value) = (stem, some value) := by
  have different : ∀ char ∈ stem, decide (char ≠ '=') = true := by
    intro char inside
    rw [decide_eq_true_iff]
    rintro rfl
    exact equalless inside
  have dropped : (stem ++ '=' :: value).dropWhile (· ≠ '=') = '=' :: value := by
    rw [List.dropWhile_append_of_pos different]
    rfl
  have taken : (stem ++ '=' :: value).takeWhile (· ≠ '=') = stem := by
    rw [List.takeWhile_append_of_pos different]
    simp
  rw [splitAtEquals, dropped, taken]

/-- Any text can stand behind the equals sign of a long option. -/
theorem classify_attached {spelling : String} {flag : Flag} {second : Char} {rest : List Char}
    (dashes : spelling.toList = '-' :: second :: rest) (equalless : '=' ∉ spelling.toList)
    (spells : Flag.ofSpelling? spelling = some flag) (value : String) :
    classify (spelling ++ "=" ++ value) =
      .ok (.option flag (isShort spelling) (some value)) := by
  have characters : (spelling ++ "=" ++ value).toList = spelling.toList ++ '=' :: value.toList := by
    rw [String.toList_append, String.toList_append, List.append_assoc]
    rfl
  have unspelled : Flag.ofSpelling? (spelling ++ "=" ++ value) = none := by
    apply Flag.ofSpelling?_of_mem
    rw [characters]
    exact List.mem_append_right _ List.mem_cons_self
  have cut := splitAtEquals_append equalless value.toList
  rw [classify, characters]
  rw [dashes] at cut ⊢
  simp only [List.cons_append] at cut ⊢
  simp only [unspelled, cut, Option.bind_some, ← dashes, String.ofList_toList, spells,
    Option.map_some]

/-- A text without a dash at its start is a value. -/
theorem classify_value {text : String} (dashless : text.toList.head? ≠ some '-') :
    classify text = .ok (.value text) := by
  unfold classify
  split
  · rename_i second rest dashes
    exact absurd (by rw [dashes]; rfl) dashless
  · rfl

/-- Words that come before others without being the separator. -/
theorem classifyAll_cons {text : String} {word : Word} (other : text ≠ "--")
    (shape : classify text = .ok word) (rest : List String) :
    classifyAll (text :: rest) = (classifyAll rest).map (word :: ·) := by
  rw [classifyAll, if_neg other, shape]
  rcases classifyAll rest with misuse | words
  · rfl
  · rfl

end Word

namespace Options

/-- A part of what a command line asks for. -/
inductive Part where
  | command (line : String)
  | executor (name : String)
  | plain
  | verbose
  | diagnosis
  deriving DecidableEq, Repr

namespace Part

/-- The groups of words that ask for a part. A line in a word of its own must not look like an
option. Behind an equals sign it may be any text. -/
inductive Written : Part → List String → Prop where
  | attachedCommand (line : String) : Written (.command line) ["--command=" ++ line]
  | command {spelling line : String} (spelled : spelling ∈ ["-c", "--command"])
      (dashless : line.toList.head? ≠ some '-') : Written (.command line) [spelling, line]
  | attachedExecutor {name : String} (known : name ∈ executors) :
      Written (.executor name) ["--executor=" ++ name]
  | executor {name : String} (known : name ∈ executors) :
      Written (.executor name) ["--executor", name]
  | plain : Written .plain ["--plain"]
  | verbose : Written .verbose ["-v"]
  | diagnosis : Written .diagnosis ["doctor"]

/-- The options when a part is added. -/
def apply (options : Options) : Part → Options
  | command line => { options with command? := some (.ofText line) }
  | executor name => { options with executor := .text name }
  | plain => { options with plain := true }
  | verbose => { options with verbose := true }
  | diagnosis => { options with diagnose := true }

/-- The progress behind a part. -/
def advance (progress : Progress) (part : Part) : Progress where
  options := part.apply progress.options
  targetGiven := progress.targetGiven || part == .diagnosis
  targetJustGiven := part == .diagnosis
  leftover := progress.leftover

variable {part : Part} {words : List String}

theorem ofText_of_mem {name : String} (known : name ∈ executors) : Given.ofText name = .text name := by
  have other : name ≠ "--" := by
    rintro rfl
    exact absurd known (by decide)
  rw [Given.ofText, if_neg other]

theorem assign_executor {name : String} (known : name ∈ executors) (options : Options) :
    assign .executor name options = .ok { options with executor := .text name } := by
  have listed : executors.contains name = true := by simpa using known
  simp only [assign, ofText_of_mem known, listed, ↓reduceIte]

/-- The words of a part have shapes of their own, and reading them has the effect of the part. -/
structure Reads (part : Part) (words : List String) (shapes : List Word) : Prop where
  classified : ∀ rest, Word.classifyAll (words ++ rest) =
    (Word.classifyAll rest).map (shapes ++ ·)
  effect : ∀ rest progress, (part = .diagnosis → progress.targetGiven = false) →
    read (shapes ++ rest) progress = read rest (advance progress part)

theorem reads_attached {spelling value : String} {flag : Flag} {second : Char} {chars : List Char}
    (dashes : spelling.toList = '-' :: second :: chars) (equalless : '=' ∉ spelling.toList)
    (spells : Flag.ofSpelling? spelling = some flag) (long : Word.isShort spelling = false)
    (takes : flag.takesValue = true) (other : part ≠ .diagnosis)
    (assigned : ∀ options, assign flag value options = .ok (part.apply options)) :
    Reads part [spelling ++ "=" ++ value] [.option flag false (some value)] := by
  constructor
  · intro rest
    have shape := Word.classify_attached dashes equalless spells value
    have separates : spelling ++ "=" ++ value ≠ "--" := by
      intro same
      have inside : '=' ∈ (spelling ++ "=" ++ value).toList := by simp
      rw [same] at inside
      exact absurd inside (by decide)
    rw [long] at shape
    exact Word.classifyAll_cons separates shape rest
  · intro rest progress _
    have written : unfold flag false (some value) = .ok ([], flag, some value) := by
      simp only [unfold, takes, Bool.false_eq_true, ↓reduceIte]
    have unlike : (part == .diagnosis) = false := beq_eq_false_iff_ne.2 other
    rw [List.singleton_append, read_attached written takes, readAfter, advance, unlike,
      Bool.or_false]
    simp only [switchAll, List.foldlM_nil, pure, Except.pure, Bind.bind, Except.bind, assigned]

theorem reads_separate {spelling value : String} {flag : Flag} {short : Bool}
    (shape : Word.classify spelling = .ok (.option flag short none)) (separates : spelling ≠ "--")
    (dashless : value.toList.head? ≠ some '-')
    (takes : flag.takesValue = true) (other : part ≠ .diagnosis)
    (assigned : ∀ options, assign flag value options = .ok (part.apply options)) :
    Reads part [spelling, value] [.option flag short none, .value value] := by
  constructor
  · intro rest
    have unlike : value ≠ "--" := by
      rintro rfl
      exact dashless rfl
    change Word.classifyAll (spelling :: value :: rest) = _
    rw [Word.classifyAll_cons separates shape, Word.classifyAll_cons unlike
      (Word.classify_value dashless)]
    rcases Word.classifyAll rest with misuse | words
    · rfl
    · rfl
  · intro rest progress _
    have written : unfold flag short none = .ok ([], flag, none) := rfl
    have unlike : (part == .diagnosis) = false := beq_eq_false_iff_ne.2 other
    rw [List.cons_append, List.singleton_append, read_separate written takes, readAfter, advance,
      unlike, Bool.or_false]
    simp only [switchAll, List.foldlM_nil, pure, Except.pure, Bind.bind, Except.bind, assigned]

theorem reads_switch {spelling : String} {flag : Flag} {short : Bool}
    (shape : Word.classify spelling = .ok (.option flag short none)) (separates : spelling ≠ "--")
    (takes : flag.takesValue = false) (other : part ≠ .diagnosis)
    (switched : ∀ options, switch flag options = .ok (part.apply options)) :
    Reads part [spelling] [.option flag short none] := by
  constructor
  · exact Word.classifyAll_cons separates shape
  · intro rest progress _
    have written : unfold flag short none = .ok ([], flag, none) := rfl
    have unlike : (part == .diagnosis) = false := beq_eq_false_iff_ne.2 other
    rw [List.singleton_append, read_switch written takes, advance, unlike, Bool.or_false]
    simp only [switchAll, List.nil_append, List.foldlM_cons, List.foldlM_nil, switched, pure,
      Except.pure, Bind.bind, Except.bind]

theorem reads_target : Reads .diagnosis ["doctor"] [.value "doctor"] := by
  constructor
  · exact Word.classifyAll_cons (by decide) rfl
  · intro rest progress fresh
    have free : progress.targetGiven = false := fresh rfl
    have placed : place "doctor" progress = .ok (advance progress .diagnosis) := by
      simp [place, free, targets, advance, apply]
    rw [List.singleton_append, read, placed]
    rfl

theorem Written.exists_reads (written : Written part words) :
    ∃ shapes, Reads part words shapes := by
  cases written with
  | attachedCommand line =>
      exact ⟨_, @reads_attached _ "--command" line .command '-' _ rfl (by decide) (by decide)
        (by decide) rfl (by simp) fun _ => rfl⟩
  | @command spelling line spelled dashless =>
      rcases List.mem_cons.1 spelled with rfl | spelled
      · exact ⟨_, @reads_separate _ "-c" line .command true rfl (by decide) dashless rfl (by simp)
          fun _ => rfl⟩
      · obtain rfl := List.mem_singleton.1 spelled
        exact ⟨_, @reads_separate _ "--command" line .command false rfl (by decide) dashless rfl
          (by simp) fun _ => rfl⟩
  | @attachedExecutor name known =>
      exact ⟨_, @reads_attached _ "--executor" name .executor '-' _ rfl (by decide) (by decide)
        (by decide) rfl (by simp) (assign_executor known)⟩
  | @executor name known =>
      have dashless : name.toList.head? ≠ some '-' := by
        have all : (executors.all fun name => name.toList.head? != some '-') = true := by decide
        simpa using List.all_eq_true.1 all name known
      exact ⟨_, @reads_separate _ "--executor" name .executor false rfl (by decide) dashless rfl
        (by simp) (assign_executor known)⟩
  | plain => exact ⟨_, @reads_switch _ "--plain" .plain false rfl (by decide) rfl (by simp)
      fun _ => rfl⟩
  | verbose => exact ⟨_, @reads_switch _ "-v" .verbose true rfl (by decide) rfl (by simp)
      fun _ => rfl⟩
  | diagnosis => exact ⟨_, reads_target⟩

end Part

section Groups

variable {parts : List Part} {groups : List (List String)}

/-- Groups of words are read one after the other. -/
theorem exists_shapes (written : List.Forall₂ Part.Written parts groups) :
    ∃ shapes, Word.classifyAll groups.flatten = .ok shapes ∧
      ∀ progress : Progress,
        parts.count .diagnosis ≤ 1 → (progress.targetGiven = true → .diagnosis ∉ parts) →
          read shapes progress = .ok (parts.foldl Part.advance progress) := by
  induction written with
  | nil => exact ⟨[], rfl, fun progress _ _ => rfl⟩
  | @cons part words parts groups one others ih =>
      obtain ⟨shapes, classified, reads⟩ := ih
      obtain ⟨first, reader⟩ := one.exists_reads
      refine ⟨first ++ shapes, ?_, ?_⟩
      · rw [List.flatten_cons, reader.classified, classified]
        rfl
      · intro progress once fresh
        have free : part = .diagnosis → progress.targetGiven = false := by
          rintro rfl
          by_contra given
          exact fresh (by simpa using given) List.mem_cons_self
        have fewer : parts.count .diagnosis ≤ 1 := Nat.le_trans (List.count_le_count_cons ..) once
        rw [reader.effect shapes progress free, List.foldl_cons]
        apply reads _ fewer
        intro given inside
        rcases Bool.or_eq_true_iff.1 given with before | now
        · exact fresh before (List.mem_cons_of_mem _ inside)
        · have now' : part = .diagnosis := by simpa using now
          have twice := List.count_pos_iff.2 inside
          rw [now', List.count_cons_self] at once
          omega

theorem advance_foldl (parts : List Part) (progress : Progress) :
    (parts.foldl Part.advance progress).options = parts.foldl Part.apply progress.options ∧
      (parts.foldl Part.advance progress).leftover = progress.leftover := by
  induction parts generalizing progress with
  | nil => exact ⟨rfl, rfl⟩
  | cons part rest ih => exact ih (Part.advance progress part)

/-- A command line of groups is read to its end, and each group takes effect. -/
theorem parse_groups (written : List.Forall₂ Part.Written parts groups)
    (once : parts.count .diagnosis ≤ 1) :
    parse groups.flatten = .ok (parts.foldl Part.apply default) := by
  obtain ⟨shapes, classified, reads⟩ := exists_shapes written
  have complete := reads ⟨default, false, false, []⟩ once (by simp)
  obtain ⟨options, leftover⟩ := advance_foldl parts ⟨default, false, false, []⟩
  rw [parse, classified]
  simp only [orHalt, Bind.bind, Except.bind, complete, leftover, options]
  rfl

end Groups

/-- What a user asks for. -/
structure Choices where
  line : String
  executor : String
  plain : Bool
  verbose : Bool
  diagnose : Bool
  deriving DecidableEq, Repr

namespace Choices

/-- The parts of what a user asks for. -/
def parts (choices : Choices) : List Part :=
  [.command choices.line, .executor choices.executor] ++
    (if choices.plain then [.plain] else []) ++ (if choices.verbose then [.verbose] else []) ++
      (if choices.diagnose then [.diagnosis] else [])

/-- The options that hand over a line as it is given to them. -/
def options (choices : Choices) (given : Given) : Options where
  diagnose := choices.diagnose
  command? := some given
  executor := .text choices.executor
  plain := choices.plain
  verbose := choices.verbose

theorem count_parts (choices : Choices) : choices.parts.count .diagnosis ≤ 1 := by
  rcases choices with ⟨line, executor, plain, verbose, diagnose⟩
  cases plain <;> cases verbose <;> cases diagnose <;> simp [parts]

theorem foldl_parts (choices : Choices) :
    choices.parts.foldl Part.apply default = choices.options (.ofText choices.line) := by
  rcases choices with ⟨line, executor, plain, verbose, diagnose⟩
  cases plain <;> cases verbose <;> cases diagnose <;> rfl

/-- Different parts take effect on different options. -/
theorem apply_comm {choices : Choices} {first second : Part} (one : first ∈ choices.parts)
    (two : second ∈ choices.parts) (options : Options) :
    (options |> (Part.apply · first) |> (Part.apply · second)) =
      (options |> (Part.apply · second) |> (Part.apply · first)) := by
  have among {part : Part} (inside : part ∈ choices.parts) :
      part = .command choices.line ∨ part = .executor choices.executor ∨ part = .plain ∨
        part = .verbose ∨ part = .diagnosis := by
    simp only [parts, List.mem_append, List.mem_cons, List.not_mem_nil, or_false,
      List.mem_ite_nil_right] at inside
    tauto
  rcases among one with rfl | rfl | rfl | rfl | rfl <;>
    rcases among two with rfl | rfl | rfl | rfl | rfl <;> rfl

end Choices

/-- Whatever order the parts of a command line have, and in whatever way each is written, it is read
to its end and gives exactly what is asked for. Only a line that looks like the separator is lost. -/
theorem parse_of_perm (choices : Choices) (parts : List Part) (groups : List (List String))
    (order : parts.Perm choices.parts) (written : List.Forall₂ Part.Written parts groups) :
    (choices.line ≠ "--" →
      parse groups.flatten = .ok (choices.options (.text choices.line))) ∧
    (choices.line = "--" → parse groups.flatten = .ok (choices.options .nothing)) := by
  have once : parts.count .diagnosis ≤ 1 := order.count_eq .diagnosis ▸ choices.count_parts
  have commutes : ∀ first ∈ parts, ∀ second ∈ parts, ∀ options : Options,
      Part.apply (Part.apply options first) second = Part.apply (Part.apply options second) first :=
    fun first one second two =>
      Choices.apply_comm (order.mem_iff.1 one) (order.mem_iff.1 two)
  have parsed : parse groups.flatten = .ok (choices.options (.ofText choices.line)) := by
    rw [parse_groups written once, order.foldl_eq' commutes, choices.foldl_parts]
  refine ⟨fun other => ?_, fun separator => ?_⟩
  · rw [parsed, Given.ofText, if_neg other]
  · rw [parsed, Given.ofText, if_pos separator]

/-- A line that looks like options, between other parts. -/
theorem parse_of_perm_dashes :
    [.diagnosis, .command "--executor -v", .verbose, .executor "builtin"].Perm
        (Choices.mk "--executor -v" "builtin" false true true).parts ∧
      List.Forall₂ Part.Written
        [.diagnosis, .command "--executor -v", .verbose, .executor "builtin"]
        [["doctor"], ["--command=" ++ "--executor -v"], ["-v"], ["--executor", "builtin"]] ∧
      parse ["doctor", "--command=" ++ "--executor -v", "-v", "--executor", "builtin"] =
        .ok ⟨true, some (.text "--executor -v"), .text "builtin", false, true⟩ := by
  have order : [.diagnosis, .command "--executor -v", .verbose, .executor "builtin"].Perm
      (Choices.mk "--executor -v" "builtin" false true true).parts := by
    have last := @List.perm_append_comm _ [Part.diagnosis]
      [.command "--executor -v", .verbose, .executor "builtin"]
    exact last.trans (.cons _ (.swap ..))
  have written : List.Forall₂ Part.Written
      [.diagnosis, .command "--executor -v", .verbose, .executor "builtin"]
      [["doctor"], ["--command=" ++ "--executor -v"], ["-v"], ["--executor", "builtin"]] :=
    .cons .diagnosis (.cons (.attachedCommand _) (.cons .verbose
      (.cons (.executor (by decide)) .nil)))
  have other : "--executor -v" ≠ "--" := by decide
  exact ⟨order, written, (parse_of_perm _ _ _ order written).1 other⟩

/-- The separator does not reach a session as a line: the options hand over nothing to run. -/
theorem parse_separator :
    parse ["--command=" ++ "--", "--executor", "builtin"] =
        .ok ⟨false, some .nothing, .text "builtin", false, false⟩ ∧
      parse ["--command=" ++ "--", "--executor", "builtin"] ≠
        .ok ⟨false, some (.text "--"), .text "builtin", false, false⟩ := by
  have written : List.Forall₂ Part.Written [.command "--", .executor "builtin"]
      [["--command=" ++ "--"], ["--executor", "builtin"]] :=
    .cons (.attachedCommand _) (.cons (.executor (by decide)) .nil)
  have read := parse_groups written (by simp)
  have lost : Given.ofText "--" = .nothing := if_pos rfl
  simp only [List.foldl_cons, List.foldl_nil, Part.apply, lost] at read
  have parsed : parse ["--command=" ++ "--", "--executor", "builtin"] =
      .ok ⟨false, some .nothing, .text "builtin", false, false⟩ := read
  refine ⟨parsed, ?_⟩
  rw [parsed]
  simp

end Options

end CommandShell
