import CommandShell.Proofs.Host.Starting
import CommandShell.Proofs.Sequencer.Timing

/-!
What a request to start words is answered, and what it leaves. `answered_of_reached` says that it
is all or nothing, `Launcher.Shipped.exists_reply` that no request to a launcher of the shell fails,
and `Timeline.exists_run` that lines of commands are run to their end where their tasks end.
-/

namespace CommandShell

namespace Launcher

variable {launcher : Launcher} {words : List String}

/-- Words that cannot be started: there are none, or the start is refused. -/
def Declines (launcher : Launcher) (words : List String) : Prop :=
  words = [] ∨ ∃ program arguments failure, words = program :: arguments ∧
    launcher program arguments = .error failure ∧ failure.family? = some .dispatch

/-- A start that fails and is not refused. -/
def Fails (launcher : Launcher) (words : List String) (failure : Failure) : Prop :=
  ∃ program arguments, words = program :: arguments ∧
    launcher program arguments = .error failure ∧ failure.family? ≠ some .dispatch

def Starts (launcher : Launcher) (words : List String) (job : Job) : Prop :=
  ∃ program arguments, words = program :: arguments ∧ launcher program arguments = .ok job

theorem declines_iff :
    launcher.Declines words ↔ ∃ notice, launcher.reply words = .ok (.refused notice) := by
  cases words with
  | nil => simp [Declines, reply]
  | cons program arguments =>
      simp only [Declines, reply_cons_eq_ok_iff]
      constructor
      · rintro (⟨⟨⟩⟩ | ⟨_, _, failure, ⟨⟩, failed, family⟩)
        exact ⟨_, .inl ⟨failure, failed, family, rfl⟩⟩
      · rintro ⟨notice, ⟨failure, failed, family, _⟩ | ⟨_, _, ⟨⟩⟩⟩
        exact .inr ⟨program, arguments, failure, rfl, failed, family⟩

theorem starts_iff {job : Job} :
    launcher.Starts words job ↔ launcher.reply words = .ok (.started job) := by
  cases words with
  | nil => simp [Starts, reply]
  | cons program arguments =>
      simp [Starts, reply_cons_eq_ok_iff]

theorem reply_cons_eq_error_iff {program : String} {arguments : List String} {failure : Failure} :
    launcher.reply (program :: arguments) = .error failure ↔
      launcher program arguments = .error failure ∧ failure.family? ≠ some .dispatch := by
  rcases launched : launcher program arguments with other | job
  · by_cases family : other.family? = some .dispatch
    · simp only [reply, launched, family, if_true, reduceCtorEq, Except.error.injEq, false_iff,
        not_and, not_not]
      rintro rfl
      exact family
    · simp only [reply, launched, family, if_false, Except.error.injEq, iff_self_and]
      rintro rfl
      exact family
  · simp [reply, launched]

theorem fails_iff {failure : Failure} :
    launcher.Fails words failure ↔ launcher.reply words = .error failure := by
  cases words with
  | nil => simp [Fails, reply]
  | cons program arguments =>
      rw [reply_cons_eq_error_iff]
      simp [Fails]

/-- A launcher of the shell fails by refusing. -/
theorem Shipped.family_of_error (shipped : launcher.Shipped (·.reason?.isSome)) {program : String}
    {arguments : List String} {failure : Failure}
    (failed : launcher program arguments = .error failure) : failure.family? = some .dispatch := by
  cases shipped with
  | builtin registry =>
      rw [Registry.eq_unknownProgram_of_launcher failed]
      rfl
  | host => exact Host.processes.refused failed
  | process raises => exact Host.family_of_starter raises failed

/-- No request to a launcher of the shell fails, whatever the words are. -/
theorem Shipped.exists_reply (shipped : launcher.Shipped (·.reason?.isSome)) (words : List String) :
    ∃ reply, launcher.reply words = .ok reply := by
  cases words with
  | nil => exact ⟨_, rfl⟩
  | cons program arguments =>
      rcases replied : launcher.reply (program :: arguments) with failure | reply
      · obtain ⟨failed, other⟩ := reply_cons_eq_error_iff.1 replied
        exact absurd (shipped.family_of_error failed) other
      · exact ⟨reply, rfl⟩

end Launcher

namespace TaskTable

variable {launcher : Launcher} {table : TaskTable} {words : List String}

/-- A request starts a job. -/
def starts (request : Launcher × List String) : Bool :=
  match request.1.reply request.2 with
  | .ok (.started _) => true
  | _ => false

/-- The numbers that are handed out to requests, one after the other, whatever becomes of each. -/
def handedOut : List (Launcher × List String) → TaskTable → List TaskId
  | [], _ => []
  | (launcher, words) :: rest, table =>
      match enroll launcher words table with
      | ⟨.ok (some task), later, _⟩ => task :: handedOut rest later
      | ⟨_, later, _⟩ => handedOut rest later

/-- The numbers count up by those requests that start a job. -/
theorem handedOut_eq (requests : List (Launcher × List String)) (table : TaskTable) :
    handedOut requests table =
      (List.range (requests.countP starts)).map fun index : Nat => table.nextTask + index := by
  induction requests generalizing table with
  | nil => rfl
  | cons request rest ih =>
      rcases request with ⟨launcher, words⟩
      rcases replied : launcher.reply words with failure | notice | job
      · have idle : starts (launcher, words) = false := by simp [starts, replied]
        simp [handedOut, enroll, respond, replied, ih, idle]
      · have idle : starts (launcher, words) = false := by simp [starts, replied]
        simp [handedOut, enroll, respond, replied, ih, idle]
      · have busy : starts (launcher, words) = true := by simp [starts, replied]
        have next (index : Nat) : (table.accept words job).nextTask + (index : Int) =
            table.nextTask + (index + 1 : Nat) := by
          show ((table.accepted + 1 : Nat) : Int) + 1 + index = table.accepted + 1 + (index + 1 : Nat)
          omega
        simp only [handedOut, enroll, respond, replied, ih, List.countP_cons, busy, if_true,
          List.range_succ_eq_map, List.map_cons, List.map_map, next]
        simp [Function.comp_def]

section Answers

variable {task : TaskId}

theorem enroll_answer_eq_none_iff :
    (enroll launcher words table).answer = .ok none ↔ launcher.Declines words := by
  rw [Launcher.declines_iff]
  rcases replied : launcher.reply words with failure | notice | job
  · simp [enroll, respond, replied]
  · simp [enroll, respond, replied]
  · simp [enroll, respond, replied]

theorem enroll_answer_eq_error_iff {failure : Failure} :
    (enroll launcher words table).answer = .error failure ↔ launcher.Fails words failure := by
  rw [Launcher.fails_iff]
  rcases replied : launcher.reply words with failure | notice | job
  · simp [enroll, respond, replied]
  · simp [enroll, respond, replied]
  · simp [enroll, respond, replied]

theorem enroll_state_eq_self
    (declined : ∀ task, (enroll launcher words table).answer ≠ .ok (some task)) :
    (enroll launcher words table).state = table := by
  rcases replied : launcher.reply words with failure | notice | job
  · simp [enroll, respond, replied]
  · simp [enroll, respond, replied]
  · exact absurd (by simp [enroll, respond, replied]) (declined table.nextTask)

/-- A request that runs its task to its end is the request, and then the end of the task. -/
theorem dispatch_eq_enroll :
    dispatch launcher words table = enroll launcher words table ∨
      ∃ job, launcher.Starts words job ∧
        (dispatch launcher words table).answer = (enroll launcher words table).answer ∧
        (dispatch launcher words table).state =
          (enroll launcher words table).state.finish table.nextTask := by
  have step := dispatched launcher words table
  have answers := dispatch_answer launcher words table
  generalize dispatch launcher words table = outcome at step answers
  cases step with
  | failed reply => exact .inl (by simp [enroll, respond, reply])
  | refused reply => exact .inl (by simp [enroll, respond, reply])
  | held reply gated => exact .inl (by simp [enroll, respond, reply])
  | @done job reply free =>
      refine .inr ⟨job, Launcher.starts_iff.2 reply, answers, ?_⟩
      simp [enroll, respond, reply]

end Answers

/-- What a request is answered, and what it leaves. -/
structure Answered (past : Past) (table : TaskTable) (launcher : Launcher) (words : List String) :
    Prop where
  /-- No number is handed out exactly when there are no words or their start is refused. -/
  declined : (enroll launcher words table).answer = .ok none ↔ launcher.Declines words
  /-- Any other failure of the start is the failure of the request. -/
  failed : ∀ failure, (enroll launcher words table).answer = .error failure ↔
    launcher.Fails words failure
  /-- Nothing changes then. -/
  unchanged : (∀ task, (enroll launcher words table).answer ≠ .ok (some task)) →
    (enroll launcher words table).state = table
  /-- Otherwise the next number is handed out, which is new, and its entry is all that is added. -/
  added : ∀ task, (enroll launcher words table).answer = .ok (some task) →
    task = table.nextTask ∧ task ∉ past.tasks ∧
      ∃ job, launcher.Starts words job ∧ (enroll launcher words table).state =
        { accepted := table.accepted + 1
          outstanding := table.outstanding ++ [(task, words)]
          completed := table.completed
          running := table.running ++ [(task, job)] }
  /-- Requests that are declined or fail use up no number, however many there are. -/
  numbered : ∀ requests, handedOut requests table =
    (List.range (requests.countP starts)).map fun index : Nat => table.nextTask + index
  /-- A request that waits for the end of its task is answered alike, and adds the end. -/
  settled : dispatch launcher words table = enroll launcher words table ∨
    ∃ job, launcher.Starts words job ∧ (dispatch launcher words table).answer =
      (enroll launcher words table).answer ∧ (dispatch launcher words table).state =
        (enroll launcher words table).state.finish table.nextTask

/-- Requests are all or nothing, whatever happened to a table before. -/
theorem answered_of_reached {past : Past} (reached : Reached past table) (launcher : Launcher)
    (words : List String) : Answered past table launcher words := by
  constructor
  case declined => exact enroll_answer_eq_none_iff
  case failed => exact fun _ => enroll_answer_eq_error_iff
  case unchanged => exact enroll_state_eq_self
  case added =>
    intro task answered
    have enrolled : enroll launcher words table =
        ⟨.ok (some task), (enroll launcher words table).state,
          (enroll launcher words table).events⟩ := by
      rw [← answered]
    obtain ⟨job, started, rfl, accepted, _⟩ := enroll_eq_some_iff.1 enrolled
    exact ⟨rfl, reached.accounted.nextTask_not_mem, job, Launcher.starts_iff.2 started, accepted⟩
  case numbered => exact fun requests => handedOut_eq requests table
  case settled => exact dispatch_eq_enroll

/-- No request to a launcher of the shell fails, whether or not its task is left running. -/
theorem exists_answer (shipped : launcher.Shipped (·.reason?.isSome)) (words : List String)
    (table : TaskTable) :
    ∃ task?, (enroll launcher words table).answer = .ok task? ∧
      (dispatch launcher words table).answer = .ok task? := by
  obtain ⟨reply, replied⟩ := shipped.exists_reply words
  have answered : ∃ task?, (enroll launcher words table).answer = .ok task? := by
    cases reply with
    | refused notice => exact ⟨none, by simp [enroll, respond, replied]⟩
    | started job => exact ⟨some table.nextTask, by simp [enroll, respond, replied]⟩
  obtain ⟨task?, answer⟩ := answered
  have same : (dispatch launcher words table).answer = (enroll launcher words table).answer := by
    rcases dispatch_eq_enroll with same | ⟨_, _, same, _⟩
    · rw [same]
    · exact same
  exact ⟨task?, answer, same.trans answer⟩

end TaskTable

namespace Timeline

open Sequencer (run Attended Unblocked run_commands exists_dispatch_of_mem)

variable {moments : Nat → Moment} {line : Timeline} {commands : List Command}

/-- Commands that are run where every awaited task ends are run to their end, with one launch for
each. A launch has no number when its words could not be started at that moment. -/
theorem exists_run (shipped : ∀ clock, (moments clock).launcher.Shipped (·.reason?.isSome))
    (reached : TaskTable.Reached line.past line.table)
    (attended : Attended (run (executor moments) commands line)) :
    ∃ launches later events,
      run (executor moments) commands line = ⟨.ok launches, later, events⟩ ∧
        launches.map (·.command) = commands ∧
        ∀ launch ∈ launches, ∃ clock, launch.task? = none ↔
          (moments clock).launcher.Declines launch.command.words := by
  rcases ran : run (executor moments) commands line with ⟨failure | launches, later, events⟩
  · exfalso
    have unblocked := Unblocked.of_attended reached attended
    obtain ⟨_, command, _, _, middle, _, _, _, _, dispatched, _⟩ := unblocked.exists_of_error ran
    obtain ⟨task?, answered, _⟩ := TaskTable.exists_answer (shipped middle.clock) command.words
      (middle.pass moments).1.table
    have failed : (TaskTable.enroll (moments middle.clock).launcher command.words
        (middle.pass moments).1.table).answer = .error failure := congrArg Outcome.answer dispatched
    rw [answered] at failed
    cases failed
  · refine ⟨launches, later, events, rfl, run_commands ran, fun launch inside => ?_⟩
    obtain ⟨before, ready, asked, dispatched⟩ := exists_dispatch_of_mem ran inside
    have answered : (TaskTable.enroll (moments before.clock).launcher launch.command.words
        (before.pass moments).1.table).answer = .ok launch.task? := congrArg Outcome.answer dispatched
    refine ⟨before.clock, fun unstarted => ?_, fun declines => ?_⟩
    · exact TaskTable.enroll_answer_eq_none_iff.1 (unstarted ▸ answered)
    · exact Except.ok.inj (answered.symm.trans (TaskTable.enroll_answer_eq_none_iff.2 declines))

/-- Requests are all or nothing, and none fails whose launcher comes with the shell: no number is
handed out for words that cannot be started, a failure of another kind is passed on, and in both cases
nothing changes. So every command of a line gets a launch where the tasks that are awaited end. -/
theorem answered_and_run {past : Past} {table : TaskTable}
    (reached : TaskTable.Reached past table)
    (shipped : ∀ clock, (moments clock).launcher.Shipped (·.reason?.isSome))
    (reached' : TaskTable.Reached line.past line.table)
    (attended : Attended (run (executor moments) commands line)) :
    (∀ launcher words, TaskTable.Answered past table launcher words) ∧
      (∀ clock words, ∃ task?,
        (TaskTable.enroll (moments clock).launcher words table).answer = .ok task? ∧
          (TaskTable.dispatch (moments clock).launcher words table).answer = .ok task?) ∧
      ∃ launches later events,
        run (executor moments) commands line = ⟨.ok launches, later, events⟩ ∧
          launches.map (·.command) = commands ∧
          ∀ launch ∈ launches, ∃ clock, launch.task? = none ↔
            (moments clock).launcher.Declines launch.command.words :=
  ⟨TaskTable.answered_of_reached reached,
    fun clock words => TaskTable.exists_answer (shipped clock) words table,
    exists_run shipped reached' attended⟩

/-- A host that starts everything but words with the character that ends texts. -/
def nulSpawn (name : String) (arguments : List String) : Except Host.Raised Host.Child :=
  if (name :: arguments).any (·.toList.contains '\x00') then .error (.value "embedded null byte")
  else .ok ⟨none, [], .ok (some 0)⟩

/-- The first task ends when it is awaited. -/
def nulMoments (clock : Nat) : Moment :=
  ⟨if clock = 3 then [1] else [], Host.starter nulSpawn⟩

theorem shipped_nulMoments (clock : Nat) :
    (nulMoments clock).launcher.Shipped (·.reason?.isSome) := by
  refine .process fun name arguments raised spawned => ?_
  unfold nulSpawn at spawned
  split at spawned
  · cases spawned
    rfl
  · cases spawned

/-- No words, and words with the character that ends texts, get launches without numbers, and use up
none. -/
theorem answered_and_run_nul :
    let table : TaskTable := ⟨2, [(1, ["crash"])], [1], []⟩
    let commands : List Command :=
      [⟨"", [], false⟩, ⟨"a", ["a\x00"], true⟩, ⟨"b c", ["b", "c"], false⟩]
    let outcome := run (executor nulMoments) commands .start
    let requests := [(Host.starter nulSpawn, []), (TaskTable.crashLauncher, ["nope", "x"]),
      (Host.starter nulSpawn, ["a\x00"]), (TaskTable.crashLauncher, ["crash"])]
    TaskTable.Reached TaskTable.overtaking table ∧ Attended outcome ∧
      TaskTable.Answered TaskTable.overtaking table TaskTable.crashLauncher ["nope", "x"] ∧
      TaskTable.handedOut requests table = [3] ∧
      ∃ launches later events, outcome = ⟨.ok launches, later, events⟩ ∧
        launches.map (·.command) = commands ∧ launches.map (·.task?) = [none, none, some 1] := by
  intro table commands outcome requests
  have attended : Attended outcome := by decide +kernel
  obtain ⟨answered, _, launches, later, events, ran, same, _⟩ := answered_and_run
    TaskTable.overtaking_reached shipped_nulMoments .empty attended
  have tasks : outcome.answer.toOption.map (List.map (·.task?)) = some [none, none, some 1] := by
    decide +kernel
  have ended : outcome = ⟨.ok launches, later, events⟩ := ran
  rw [ended] at tasks
  have whole := answered TaskTable.crashLauncher ["nope", "x"]
  have numbers : TaskTable.handedOut requests table = [3] :=
    (whole.numbered requests).trans (by decide +kernel)
  exact ⟨TaskTable.overtaking_reached, attended, whole, numbers, launches, later, events, ran, same,
    Option.some.inj tasks⟩

end Timeline

end CommandShell
