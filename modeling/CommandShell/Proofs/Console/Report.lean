import CommandShell.Console
import CommandShell.Proofs.Console.Emoji

/-!
Commands in reports. A console without styles shows every command as it was typed, and
`Screen.report_typed_iff` says which commands a styled console shows so.
-/

namespace CommandShell

namespace Layout

theorem expandTabsFrom_eq_append {column : Nat} {part line : List Char} (untabbed : '\t' ∉ line) :
    expandTabsFrom column part line = part ++ line := by
  induction line generalizing part with
  | nil => rw [expandTabsFrom, List.append_nil]
  | cons char rest ih =>
      rw [List.mem_cons, not_or] at untabbed
      rw [expandTabsFrom, if_neg (Ne.symm untabbed.1), ih untabbed.2, List.append_assoc]
      rfl

theorem expandTabs_eq_self {line : List Char} (untabbed : '\t' ∉ line) : expandTabs line = line :=
  expandTabsFrom_eq_append untabbed

/-- No tab is left when tabs were expanded. -/
theorem not_mem_expandTabsFrom {column : Nat} {part : List Char} (untabbed : '\t' ∉ part)
    (line : List Char) : '\t' ∉ expandTabsFrom column part line := by
  induction line generalizing column part with
  | nil => exact untabbed
  | cons char rest ih =>
      rw [expandTabsFrom]
      split
      · have spaces (count : Nat) : '\t' ∉ List.replicate count ' ' := by simp
        simp [untabbed, spaces, ih]
      · rename_i other
        exact ih (by simp [untabbed, Ne.symm other])

theorem split_ne_nil (ends : Char → Bool) (text : List Char) : split ends text ≠ [] := by
  cases text with
  | nil => simp [split]
  | cons char rest =>
      rw [split]
      split
      · simp
      · split <;> simp

theorem join_lines (text : List Char) : join (lines text) = text ++ ['\n'] := by
  induction text with
  | nil => rfl
  | cons char rest ih =>
      rw [lines] at ih ⊢
      rw [split]
      by_cases feed : char = '\n'
      · subst feed
        simp only [BEq.rfl, ↓reduceIte]
        rw [join, List.flatMap_cons, ← join, ih]
        rfl
      · rw [if_neg (by simpa using feed)]
        rcases pieces : split (· == '\n') rest with _ | ⟨next, others⟩
        · exact absurd pieces (split_ne_nil _ rest)
        · rw [pieces, join, List.flatMap_cons] at ih
          rw [join, List.flatMap_cons]
          simp only [List.cons_append, ih]

theorem not_mem_join_expandTabs (text : List Char) :
    '\t' ∉ join ((lines text).map expandTabs) := by
  intro tabbed
  obtain ⟨line, found, within⟩ := List.mem_flatMap.1 tabbed
  obtain ⟨source, _, rfl⟩ := List.mem_map.1 found
  rcases List.mem_append.1 within with before | after
  · exact not_mem_expandTabsFrom List.not_mem_nil source before
  · cases List.mem_singleton.1 after

theorem join_expandTabs {text : List Char} (untabbed : '\t' ∉ text) :
    join ((lines text).map expandTabs) = text ++ ['\n'] := by
  have kept : (lines text).map expandTabs = lines text := by
    conv_rhs => rw [← List.map_id (lines text)]
    apply List.map_congr_left
    intro line found
    apply expandTabs_eq_self
    intro inside
    have joined : '\t' ∈ join (lines text) :=
      List.mem_flatMap.2 ⟨line, found, List.mem_append_left _ inside⟩
    rw [join_lines, List.mem_append] at joined
    rcases joined with before | after
    · exact untabbed before
    · cases List.mem_singleton.1 after
  rw [kept, join_lines]

end Layout

namespace Console

/-- A text that a styled console shows as it is: it has no tabs, no characters that are not shown,
and no known names between colons. -/
structure Literal (text : List Char) : Prop where
  untabbed : '\t' ∉ text
  unhidden : ∀ char ∈ text, Markup.isHidden char = false
  unnamed : ∀ name ∈ Emoji.codes text, ¬ Emoji.Known name

/-- A character that is not shown is a control character. -/
theorem lt_of_isHidden {char : Char} (hidden : Markup.isHidden char = true) :
    char.toNat < 0x20 := by
  have listed : char.toNat ∈ [7, 8, 11, 12, 13] := by
    simpa only [Markup.isHidden, List.contains_iff_mem] using hidden
  have small : ∀ number ∈ [7, 8, 11, 12, 13], number < 0x20 := by decide
  exact small _ listed

theorem visible_eq_self_iff {text : List Char} :
    Markup.visible text = text ↔
      (∀ char ∈ text, Markup.isHidden char = false) ∧ Emoji.replace text = text := by
  constructor
  · intro same
    have unhidden : ∀ char ∈ text, Markup.isHidden char = false := by
      intro char inside
      rw [← same, Markup.visible, List.mem_filter] at inside
      simpa using inside.2
    -- A character that is dropped is a control character, and these come from the text itself.
    have kept : ∀ char ∈ Emoji.replace text, (!Markup.isHidden char) = true := by
      intro char inside
      rcases hidden : Markup.isHidden char with _ | _
      · rfl
      · have typed := Emoji.mem_of_mem_replace inside (lt_of_isHidden hidden)
        rw [unhidden char typed] at hidden
        cases hidden
    refine ⟨unhidden, ?_⟩
    rwa [Markup.visible, List.filter_eq_self.2 kept] at same
  · rintro ⟨unhidden, same⟩
    rw [Markup.visible, same, List.filter_eq_self]
    intro char inside
    rw [unhidden char inside, Bool.not_false]

theorem literal_iff {text : List Char} :
    Literal text ↔ '\t' ∉ text ∧ Markup.visible text = text := by
  rw [visible_eq_self_iff, Emoji.replace_eq_self_iff]
  exact ⟨fun literal => ⟨literal.untabbed, literal.unhidden, literal.unnamed⟩,
    fun parts => ⟨parts.1, parts.2.1, parts.2.2⟩⟩

theorem not_mem_visible {text : List Char} (untabbed : '\t' ∉ text) :
    '\t' ∉ Markup.visible text := by
  intro inside
  have replaced : '\t' ∈ Emoji.replace text := (List.mem_filter.1 inside).1
  exact untabbed (Emoji.mem_of_mem_replace replaced (by decide))

theorem toList_report (text : String) : (report true text).toList =
    Layout.join ((Layout.lines (Markup.visible text.toList)).map Layout.expandTabs) := by
  rw [report, if_pos rfl, String.toList_ofList]

/-- A styled console does not break a text without tabs. -/
theorem report_of_untabbed {text : String} (untabbed : '\t' ∉ text.toList) :
    report true text = String.ofList (Markup.visible text.toList) ++ "\n" := by
  apply String.toList_inj.1
  rw [toList_report, Layout.join_expandTabs (not_mem_visible untabbed), String.toList_append,
    String.toList_ofList]
  rfl

theorem report_eq_iff {text : String} :
    report true text = text ++ "\n" ↔ Literal text.toList := by
  rw [literal_iff]
  constructor
  · intro same
    have untabbed : '\t' ∉ text.toList := by
      intro inside
      have reported : '\t' ∈ (report true text).toList := by
        rw [same, String.toList_append]
        exact List.mem_append_left _ inside
      rw [toList_report] at reported
      exact Layout.not_mem_join_expandTabs _ reported
    rw [report_of_untabbed untabbed, String.append_left_inj] at same
    have lists := congrArg String.toList same
    rw [String.toList_ofList] at lists
    exact ⟨untabbed, lists⟩
  · rintro ⟨untabbed, same⟩
    rw [report_of_untabbed untabbed, same, String.ofList_toList]

/-- A text that stands before another one and changes nothing about it. -/
structure Label (label : List Char) : Prop where
  untabbed : '\t' ∉ label
  visible : ∀ text, Markup.visible (label ++ text) = label ++ Markup.visible text

theorem Label.append {first second : List Char} (before : Label first) (after : Label second) :
    Label (first ++ second) where
  untabbed := by
    rw [List.mem_append, not_or]
    exact ⟨before.untabbed, after.untabbed⟩
  visible text := by
    rw [List.append_assoc, before.visible, after.visible, List.append_assoc]

/-- Words with a colon and a blank at their end. -/
theorem label_words (words : List Char) (colonless : ':' ∉ words)
    (unhidden : words.all (!Markup.isHidden ·) = true) (untabbed : '\t' ∉ words) :
    Label (words ++ [':', ' ']) where
  untabbed := by simp [untabbed]
  visible text := by
    have kept : words.filter (!Markup.isHidden ·) = words :=
      List.filter_eq_self.2 (List.all_eq_true.1 unhidden)
    rw [Markup.visible, List.append_assoc, Emoji.replace_append colonless, List.filter_append, kept,
      List.cons_append, List.singleton_append, Emoji.replace_colon_blank, List.append_assoc]
    rfl

theorem Label.literal_append {label text : List Char} (labels : Label label) :
    Literal (label ++ text) ↔ Literal text := by
  rw [literal_iff, literal_iff, labels.visible, List.append_cancel_left_eq, List.mem_append, not_or]
  exact and_congr_left' (and_iff_right labels.untabbed)

theorem label_started : Label "Successfully executed command: ".toList :=
  label_words "Successfully executed command".toList (by decide) (by decide) (by decide)

theorem label_failed : Label "Error: Failed to execute command: ".toList :=
  (label_words "Error".toList (by decide) (by decide) (by decide)).append
    (label_words "Failed to execute command".toList (by decide) (by decide) (by decide))

/-- A label is reported as it is, and the text after it as it would be on its own. -/
theorem report_label (label text : String) (labels : Label label.toList)
    (untabbed : '\t' ∉ text.toList) :
    report true (label ++ text) = label ++ String.ofList (Markup.visible text.toList) ++ "\n" := by
  have whole : '\t' ∉ (label ++ text).toList := by
    rw [String.toList_append, List.mem_append, not_or]
    exact ⟨labels.untabbed, untabbed⟩
  rw [report_of_untabbed whole, String.toList_append, labels.visible, String.ofList_append,
    String.ofList_toList]

theorem report_label_eq_iff (label text : String) (labels : Label label.toList) :
    report true (label ++ text) = label ++ text ++ "\n" ↔ Literal text.toList := by
  rw [report_eq_iff, String.toList_append, labels.literal_append]

end Console

namespace Screen

open Console

/-- A text on the output and nothing else. -/
def onOutput (text : String) : Screen := { blank with output := text }

/-- A text on the error stream and nothing else. -/
def onError (text : String) : Screen := { blank with error := text }

theorem onOutput_inj {first second : String} : onOutput first = onOutput second ↔ first = second := by
  simp [onOutput]

theorem onError_inj {first second : String} : onError first = onError second ↔ first = second := by
  simp [onError]

theorem ofEvent_started (console : Console) (text : String) (task : TaskId) :
    ofEvent console (.started text task) = onOutput (report console.styled (startedText text)) :=
  rfl

theorem ofEvent_failed (console : Console) (text : String) :
    ofEvent console (.failed text) = onError (report console.styled (failedText text)) := rfl

/-- Reports of commands that started go to the output alone, and those of commands that did not go
to the error stream alone. A console without styles shows the command as it was typed, whatever it
is. A styled console does so exactly when the command is literal; of any other command without tabs
it shows what is left when emoji are replaced and characters that are not shown are dropped. -/
theorem report_typed_iff (threshold : Severity) (text : String) (task : TaskId) :
    ofEvent ⟨false, threshold⟩ (.started text task) = onOutput (startedText text ++ "\n") ∧
      ofEvent ⟨false, threshold⟩ (.failed text) = onError (failedText text ++ "\n") ∧
      (∃ shown, ofEvent ⟨true, threshold⟩ (.started text task) = onOutput shown) ∧
      (∃ shown, ofEvent ⟨true, threshold⟩ (.failed text) = onError shown) ∧
      (ofEvent ⟨true, threshold⟩ (.started text task) = onOutput (startedText text ++ "\n") ↔
        Literal text.toList) ∧
      (ofEvent ⟨true, threshold⟩ (.failed text) = onError (failedText text ++ "\n") ↔
        Literal text.toList) ∧
      ('\t' ∉ text.toList →
        let shown := String.ofList (Markup.visible text.toList)
        ofEvent ⟨true, threshold⟩ (.started text task) = onOutput (startedText shown ++ "\n") ∧
          ofEvent ⟨true, threshold⟩ (.failed text) = onError (failedText shown ++ "\n")) := by
  have started := report_label_eq_iff "Successfully executed command: " text label_started
  have failed := report_label_eq_iff "Error: Failed to execute command: " text label_failed
  simp only [ofEvent_started, ofEvent_failed, onOutput_inj, onError_inj]
  refine ⟨rfl, rfl, ⟨_, rfl⟩, ⟨_, rfl⟩, started, failed, ?_⟩
  intro untabbed
  exact ⟨report_label _ text label_started untabbed, report_label _ text label_failed untabbed⟩

/-- Square brackets are no markup in a report. -/
theorem report_typed_brackets :
    ofEvent ⟨true, .warning⟩ (.started "echo [bold]x[/bold]" 1) =
        onOutput "Successfully executed command: echo [bold]x[/bold]\n" ∧
      ofEvent ⟨true, .warning⟩ (.failed "echo [bold]x[/bold]") =
        onError "Error: Failed to execute command: echo [bold]x[/bold]\n" := by
  have literal : Literal "echo [bold]x[/bold]".toList := by
    have unhidden : "echo [bold]x[/bold]".toList.all (!Markup.isHidden ·) = true := by decide
    constructor
    case untabbed => decide
    case unhidden => simpa using unhidden
    case unnamed => decide
  have typed := (report_typed_iff .warning "echo [bold]x[/bold]" 1).2.2.2.2
  have shown := typed.2.2 (by decide)
  exact ⟨typed.1.2 literal, shown.2⟩

/-- A styled console does not show a name of an emoji as it was typed. -/
theorem report_named :
    ofEvent ⟨true, .warning⟩ (.started "echo :b:" 1) =
        onOutput "Successfully executed command: echo 🅱\n" ∧
      ofEvent ⟨true, .warning⟩ (.started "echo :b:" 1) ≠
        onOutput (startedText "echo :b:" ++ "\n") := by
  decide

end Screen

end CommandShell
