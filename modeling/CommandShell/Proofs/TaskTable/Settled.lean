import CommandShell.Proofs.Sequencer.Unblocked
import CommandShell.Proofs.TaskTable.Emission
import CommandShell.Registry

/-!
Tables on which no wait blocks. Where every job runs to its end inside its request, an outstanding
task is a task that ended. So every line of commands returns, and a drain takes the tasks that it
leaves. The programs that every shell has are such jobs.
-/

namespace CommandShell

/-- Every request is answered, with a refusal or with a job that no gate holds. -/
def Launcher.Immediate (launcher : Launcher) : Prop :=
  ∀ words, (∃ notice, launcher.reply words = .ok (.refused notice)) ∨
    ∃ job, launcher.reply words = .ok (.started job) ∧ job.gate? = none

/-- No gate holds the job that words start. -/
def Launcher.Ungated (launcher : Launcher) (words : List String) : Prop :=
  ∀ job, launcher.reply words = .ok (.started job) → job.gate? = none

theorem Launcher.Immediate.ungated {launcher : Launcher} (immediate : launcher.Immediate)
    (words : List String) : launcher.Ungated words := by
  intro job started
  rcases immediate words with ⟨notice, refused⟩ | ⟨other, started', free⟩
  · cases started.symm.trans refused
  · cases started.symm.trans started'
    exact free

namespace TaskTable

section Requests

variable {launcher : Launcher} {table later : TaskTable} {words : List String}
  {events : List Event}

theorem dispatch_refused {notice : Notice} (table : TaskTable)
    (refused : launcher.reply words = .ok (.refused notice)) :
    dispatch launcher words table = ⟨.ok none, table, [.log .main notice]⟩ := by
  simp [dispatch, respond, refused]

/-- A job that no gate holds runs to its end before its task is announced. -/
theorem dispatch_started {job : Job} (table : TaskTable)
    (started : launcher.reply words = .ok (.started job)) (free : job.gate? = none) :
    dispatch launcher words table =
      ⟨.ok (some table.nextTask), (table.accept words job).finish table.nextTask,
        Job.course table.nextTask job ++ [.log .main (.taskStarted table.nextTask words)]⟩ := by
  simp [dispatch, respond, started, free]

/-- A request that no gate holds is refused, or its task ends at once. -/
theorem dispatch_of_ungated {task? : Option TaskId} (ungated : launcher.Ungated words)
    (asked : dispatch launcher words table = ⟨.ok task?, later, events⟩) :
    (task? = none ∧ later = table) ∨
      ∃ job, task? = some table.nextTask ∧
        later = (table.accept words job).finish table.nextTask := by
  have step := dispatched launcher words table
  rw [asked] at step
  cases step with
  | refused reply => exact .inl ⟨rfl, rfl⟩
  | held reply gated => simp [ungated _ reply] at gated
  | done reply free => exact .inr ⟨_, rfl, rfl⟩

/-- A request fails only with its launcher, and leaves the table as it is. -/
theorem reply_of_dispatch_error {failure : Failure}
    (refused : dispatch launcher words table = ⟨.error failure, later, events⟩) :
    launcher.reply words = .error failure ∧ later = table := by
  have step := dispatched launcher words table
  rw [refused] at step
  cases step with
  | failed reply => exact ⟨reply, rfl⟩

/-- Whether a task runs to its end at once does not show in the answer. -/
theorem dispatch_answer (launcher : Launcher) (words : List String) (table : TaskTable) :
    (dispatch launcher words table).answer = (enroll launcher words table).answer := by
  have step := dispatched launcher words table
  generalize dispatch launcher words table = outcome at step
  cases step with
  | failed reply => simp [enroll, respond, reply]
  | refused reply => simp [enroll, respond, reply]
  | held reply gated => simp [enroll, respond, reply]
  | done reply free => simp [enroll, respond, reply]

/-- A request that is answered has a task exactly when its words start a job. -/
theorem isSome_of_dispatch {task? : Option TaskId}
    (asked : dispatch launcher words table = ⟨.ok task?, later, events⟩) :
    task?.isSome = true ↔ ∃ job, launcher.reply words = .ok (.started job) := by
  have step := dispatched launcher words table
  rw [asked] at step
  cases step with
  | refused reply => simp [reply]
  | held reply gated => exact iff_of_true rfl ⟨_, reply⟩
  | done reply free => exact iff_of_true rfl ⟨_, reply⟩

end Requests

/-- Every outstanding task ended. -/
def Settled (table : TaskTable) : Prop := ∀ entry ∈ table.outstanding, entry.1 ∈ table.completed

theorem settled_empty : Settled empty := fun _ inside => absurd inside List.not_mem_nil

variable {launcher : Launcher} {table : TaskTable} {words : List String}

theorem Settled.finish_accept (settled : Settled table) (words : List String) (job : Job) :
    Settled ((table.accept words job).finish table.nextTask) := by
  intro entry inside
  change entry ∈ table.outstanding ++ [(table.nextTask, words)] at inside
  change entry.1 ∈ table.completed ++ [table.nextTask]
  rw [List.mem_append] at inside ⊢
  rcases inside with old | new
  · exact .inl (settled entry old)
  · rw [List.mem_singleton.1 new]
    exact .inr List.mem_cons_self

theorem waitAny_settled : waitAny.Keeps Settled := by
  intro table settled
  rcases next : table.completed with _ | ⟨first, rest⟩
  · rwa [waitAny, next]
  · rw [waitAny, next]
    intro entry inside
    obtain ⟨old, different⟩ := List.mem_filter.1 inside
    have queued := settled entry old
    rw [next, List.mem_cons] at queued
    exact queued.resolve_left (by simpa using different)

/-- The task of a request has ended when its number is handed out. -/
theorem Settled.dispatch {later : TaskTable} {events : List Event} {task? : Option TaskId}
    (settled : Settled table) (ungated : launcher.Ungated words)
    (dispatched : TaskTable.dispatch launcher words table = ⟨.ok task?, later, events⟩) :
    Settled later ∧ ∀ task ∈ task?, task ∈ later.completed := by
  rcases dispatch_of_ungated ungated dispatched with ⟨rfl, rfl⟩ | ⟨job, rfl, rfl⟩
  · exact ⟨settled, by simp⟩
  · exact ⟨settled.finish_accept words job, by simp [finish]⟩

theorem dispatch_settled (ungated : launcher.Ungated words) :
    (dispatch launcher words).Keeps Settled := by
  intro table settled
  rcases asked : dispatch launcher words table with ⟨failure | task?, later, events⟩
  · rw [(reply_of_dispatch_error asked).2]
    exact settled
  · exact (settled.dispatch ungated asked).1

/-- A wait for a task that ended comes to its end. -/
theorem exists_waitFor {pending : TaskId} (ended : pending ∈ table.completed) :
    ∃ later events,
      Sequencer.waitFor (executor launcher) pending table = ⟨.ok (), later, events⟩ := by
  induction table using Sequencer.waitFor_induction (executor launcher) pending with
  | failed table failure later events waited =>
      rw [(waitAny_eq_error_iff.1 waited).1] at ended
      exact absurd ended List.not_mem_nil
  | matched table later events waited => exact ⟨_, _, Sequencer.waitFor_matched waited⟩
  | discarded table task later events different waited ih =>
      obtain ⟨rest, next, rfl, _⟩ := waitAny_eq_ok_iff.1 waited
      rw [next, List.mem_cons] at ended
      obtain ⟨final, told, goes⟩ := ih (ended.resolve_left (Ne.symm different))
      rw [Sequencer.waitFor_discarded different waited, goes]
      exact ⟨final, _, rfl⟩

theorem Settled.exists_settle (settled : Settled table) {launch : Launch}
    (ended : ∀ task ∈ launch.task?, task ∈ table.completed) :
    ∃ later events, Sequencer.settle (executor launcher) launch table = ⟨.ok (), later, events⟩ ∧
      Settled later := by
  have waits : (executor launcher).waitAny.Keeps Settled := waitAny_settled
  have kept := Sequencer.settle_keeps waits launch table settled
  rcases launch with ⟨command, _ | task⟩
  · exact ⟨table, [], rfl, settled⟩
  · by_cases beside : command.concurrent
    · refine ⟨table, [], ?_, settled⟩
      simp [Sequencer.settle, beside]
    · obtain ⟨later, events, goes⟩ := @exists_waitFor launcher _ _ (ended task rfl)
      have settles : Sequencer.settle (executor launcher) ⟨command, some task⟩ table =
          ⟨.ok (), later, events⟩ := by
        simpa [Sequencer.settle, beside] using goes
      rw [settles] at kept
      exact ⟨later, events, settles, kept⟩

/-- No wait fails in a line whose tasks end at once. -/
theorem Settled.unblocked {commands : List Command} (settled : Settled table)
    (ungated : ∀ command ∈ commands, launcher.Ungated command.words) :
    Sequencer.Unblocked (executor launcher) commands table := by
  induction commands generalizing table with
  | nil => trivial
  | cons command rest ih =>
      intro launch ready events starts
      obtain ⟨asked, dispatched, _, _⟩ := Sequencer.start_eq_ok_iff.1 starts
      obtain ⟨settled', ended⟩ := settled.dispatch (ungated command List.mem_cons_self) dispatched
      obtain ⟨waited, awaited, settles, settled''⟩ :=
        @Settled.exists_settle launcher ready settled' launch ended
      rw [settles]
      exact ⟨rfl, ih settled'' fun other inside => ungated other (List.mem_cons_of_mem _ inside)⟩

/-- Commands run to their end. -/
theorem Settled.exists_run (settled : Settled table) (immediate : launcher.Immediate)
    (commands : List Command) :
    ∃ launches later events, Sequencer.run (executor launcher) commands table =
      ⟨.ok launches, later, events⟩ ∧ Settled later := by
  have dispatches (words : List String) : ((executor launcher).dispatch words).Keeps Settled :=
    dispatch_settled (immediate.ungated words)
  have waits : (executor launcher).waitAny.Keeps Settled := waitAny_settled
  have kept := Sequencer.run_keeps dispatches waits commands table settled
  have unblocked := settled.unblocked fun command (_ : command ∈ commands) =>
    immediate.ungated command.words
  rcases ran : Sequencer.run (executor launcher) commands table with
    ⟨failure | launches, later, events⟩
  · obtain ⟨_, command, _, _, _, _, _, _, _, refused, _⟩ := unblocked.exists_of_error ran
    have reply := (reply_of_dispatch_error refused).1
    rcases immediate command.words with ⟨notice, other⟩ | ⟨job, other, _⟩
    · cases reply.symm.trans other
    · cases reply.symm.trans other
  · rw [ran] at kept
    exact ⟨launches, later, events, rfl, kept⟩

/-- A drain takes every task and fails on none. -/
theorem Settled.exists_drain (settled : Settled table) :
    ∃ later events, drain table = ⟨.ok (), later, events⟩ := by
  let launcher : Launcher := fun _ _ => .error .wouldBlock
  rw [drain_eq launcher]
  induction table using Executor.drain_induction (executor launcher) isBusy with
  | done table idle => exact ⟨table, [], Executor.drain_done idle⟩
  | failed table failure later events left waited =>
      have more : table.outstanding ≠ [] := by simpa [isBusy] using left
      obtain ⟨entry, inside⟩ := List.exists_mem_of_ne_nil _ more
      have ended := settled entry inside
      rw [(waitAny_eq_error_iff.1 waited).1] at ended
      exact absurd ended List.not_mem_nil
  | taken table task later events left waited ih =>
      have kept : Settled ((executor launcher).waitAny table).state := waitAny_settled table settled
      rw [waited] at kept
      obtain ⟨final, told, goes⟩ := ih kept
      rw [Executor.drain_taken left waited, goes]
      exact ⟨final, _, rfl⟩

end TaskTable

namespace Program

/-- No gate holds a program. -/
def Ungated (program : Program) : Prop := ∀ arguments, (program arguments).gate? = none

theorem echo_ungated : Ungated echo := fun _ => rfl

theorem rounds_gate (word : String) (pause : Except Failure Deed) (count : Nat) :
    (rounds word pause count).gate? = none := by
  induction count with
  | zero => rfl
  | succ count ih =>
      cases pause with
      | error failure => rfl
      | ok sleep => exact ih

theorem pingPong_ungated : Ungated pingPong := by
  intro arguments
  rcases arguments with _ | ⟨word, rest⟩
  · rfl
  · simp only [pingPong]
    split
    · exact rounds_gate _ _ _
    · rfl

theorem sleep_ungated : Ungated sleep := by
  intro arguments
  -- Unfolded by its equations, the sleep without arguments would be computed here.
  delta sleep
  dsimp only
  split
  · rfl
  · split <;> rfl

end Program

namespace Registry

/-- The programs of a registry are among those that were listed. -/
theorem exists_of_mem_ofList {programs : List (String × Program)} {entry : String × Program}
    (inside : entry ∈ (ofList programs).entries) : ∃ named ∈ programs, named.2 = entry.2 := by
  have grown : ∀ registry : Registry,
      entry ∈ (programs.foldl (fun registry named => registry.insert named.1 named.2)
        registry).entries →
          entry ∈ registry.entries ∨ ∃ named ∈ programs, named.2 = entry.2 := by
    clear inside
    induction programs with
    | nil => exact fun _ => .inl
    | cons named rest ih =>
        intro registry inside
        rcases ih _ inside with old | ⟨other, listed, same⟩
        · rcases mem_place old with rfl | before
          · exact .inr ⟨named, List.mem_cons_self, rfl⟩
          · exact .inl before
        · exact .inr ⟨other, List.mem_cons_of_mem _ listed, same⟩
  exact (grown empty inside).resolve_left List.not_mem_nil

/-- A registry answers every request, and starts at once where no gate holds its programs. -/
theorem launcher_immediate {registry : Registry}
    (ungated : ∀ entry ∈ registry.entries, Program.Ungated entry.2) :
    registry.launcher.Immediate := by
  intro words
  rcases words with _ | ⟨name, arguments⟩
  · exact .inl ⟨.emptyRefused, rfl⟩
  · rcases found : registry.find? name with _ | program
    · exact .inl ⟨_, reply_of_find?_eq_none found⟩
    · refine .inr ⟨_, reply_of_find?_eq_some found, ?_⟩
      obtain ⟨entry, first, rfl⟩ := Option.map_eq_some_iff.1 found
      exact ungated entry (List.mem_of_find?_eq_some first) arguments

theorem standard_immediate : standard.launcher.Immediate := by
  refine launcher_immediate fun entry inside => ?_
  obtain ⟨named, listed, same⟩ := exists_of_mem_ofList inside
  rw [← same]
  simp only [List.mem_cons, List.not_mem_nil, or_false] at listed
  rcases listed with rfl | rfl | rfl
  · exact Program.pingPong_ungated
  · exact Program.echo_ungated
  · exact Program.sleep_ungated

end Registry

end CommandShell
