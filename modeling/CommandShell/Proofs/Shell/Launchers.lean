import CommandShell.Proofs.Sequencer.Emission
import CommandShell.Proofs.TaskTable.Settled
import CommandShell.Shell

/-!
The launchers of the shell. Both run every job to its end inside its request, so no line of commands
fails, whatever its commands do.
-/

namespace CommandShell

/-- A request to a host is refused with a reason, or its program runs at once. -/
theorem Processes.immediate (processes : Processes) : processes.launcher.Immediate := by
  intro words
  rcases words with _ | ⟨program, arguments⟩
  · exact .inl ⟨.emptyRefused, rfl⟩
  · rcases launched : processes.launcher program arguments with failure | job
    · refine .inl ⟨.startRefused program failure, ?_⟩
      simp [Launcher.reply, launched, processes.refused launched]
    · refine .inr ⟨job, ?_, processes.ungated launched⟩
      simp [Launcher.reply, launched]

/-- A program of the shell itself does its deeds, and may leave a record that it failed. -/
theorem Registry.event_of_launcher (registry : Registry) {name : String}
    {arguments : List String} {job : Job} {event : Event}
    (launched : registry.launcher name arguments = .ok job) (inside : event ∈ job.events) :
    (∃ deed, event = .deed deed) ∨
      ∃ failure, event = .log (.program name) (.programFailed name failure) := by
  obtain ⟨program, _, rfl⟩ := exists_program_of_launcher launched
  rw [Course.job, List.mem_append, List.mem_map] at inside
  rcases inside with ⟨deed, _, rfl⟩ | ended
  · exact .inl ⟨deed, rfl⟩
  · right
    rcases ending : (program arguments).ending with status? | failure | _
    · simp [ending, Ending.records] at ended
    · rw [ending, Ending.records, Failure.mem_records_iff] at ended
      exact ⟨failure, ended.2⟩
    · simp [ending, Ending.records] at ended

namespace Shell

variable {name : Given} {processes : Processes} {found : Launcher}

theorem launcher_eq_ok_iff :
    launcher name processes = .ok found ↔
      (name = .text "subprocess" ∧ found = processes.launcher) ∨
        (name = .text "builtin" ∧ found = Registry.standard.launcher) := by
  rcases name with name | _
  · by_cases host : name = "subprocess"
    · simp [launcher, host, eq_comm]
    · by_cases builtin : name = "builtin"
      · simp [launcher, builtin, eq_comm]
      · simp [launcher, host, builtin]
  · simp [launcher]

theorem immediate_of_launcher (chosen : launcher name processes = .ok found) :
    found.Immediate := by
  rcases launcher_eq_ok_iff.1 chosen with ⟨_, rfl⟩ | ⟨_, rfl⟩
  · exact processes.immediate
  · exact Registry.standard_immediate

/-- No job says that the shell ends. -/
theorem event_of_launcher_ne_closed (chosen : launcher name processes = .ok found)
    {program : String} {arguments : List String} {job : Job}
    (launched : found program arguments = .ok job) : ∀ event ∈ job.events, event ≠ .closed := by
  intro event inside
  rcases launcher_eq_ok_iff.1 chosen with ⟨_, rfl⟩ | ⟨_, rfl⟩
  · obtain ⟨text, rfl⟩ := processes.written launched inside
    simp
  · rcases Registry.event_of_launcher _ launched inside with ⟨deed, rfl⟩ | ⟨failure, rfl⟩
    · simp
    · simp

/-- No run of commands says that the shell ends. -/
theorem run_ne_closed (chosen : launcher name processes = .ok found) (commands : List Command) :
    (Sequencer.run (TaskTable.executor found) commands).Emits (· ≠ .closed) := by
  apply Sequencer.run_emits
  case remarks =>
    constructor
    · rintro ⟨command, _ | task⟩ <;> simp [Launch.report]
    · simp
    · simp
  case waits => exact TaskTable.waitAny_emits fun _ _ => by simp
  case dispatches =>
    intro command _
    apply TaskTable.dispatch_emits
    case refused => simp
    case started => simp
    case course =>
      intro job started task event inside
      rw [TaskTable.Job.course, List.mem_append] at inside
      rcases inside with during | ended
      · obtain ⟨program, arguments, named⟩ :=
          List.exists_cons_of_ne_nil (Launcher.ne_nil_of_started started)
        rw [named] at started
        obtain ⟨failure, _, _, ⟨⟩⟩ | ⟨_, launched, ⟨⟩⟩ := Launcher.reply_cons_eq_ok_iff.1 started
        exact event_of_launcher_ne_closed chosen launched event during
      · rcases TaskTable.mem_ended ended with ⟨_, rfl⟩ | ⟨_, rfl⟩
        · simp
        · simp

end Shell

end CommandShell
