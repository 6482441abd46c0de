import CommandShell.Proofs.Sequencer.Waiting
import CommandShell.Proofs.TaskTable.Ledger
import CommandShell.Proofs.TaskTable.Watching

/-!
The same lines on two timelines. Where every awaited task ends, both start the same tasks with the
same numbers, refuse the same commands and report the same. Left to the time at which tasks end are
the waits, the records of ends, and which concurrent tasks were handed back by the way.
-/

namespace CommandShell

/-- The task of a command that started, and whether the next command may overtake it. -/
def Event.launched? : Event → Option (TaskId × Bool)
  | .log .main (.commandStarted task concurrent _) => some (task, concurrent)
  | _ => none

namespace Sequencer

open Timeline (executor)

/-- Every task that is awaited in a run ends. -/
def Attended {Answer : Type} (outcome : Outcome Timeline Answer) : Prop :=
  ∀ entry ∈ outcome.events.filterMap Event.launched?, entry.2 = false →
    entry.1 ∈ outcome.state.past.ended

instance {Answer : Type} (outcome : Outcome Timeline Answer) : Decidable (Attended outcome) :=
  inferInstanceAs (Decidable (∀ entry ∈ _, _ → _))

/-- Every accepted task was handed back, or the next command may overtake it. -/
def Overtaken (line : Timeline) (told : List Event) : Prop :=
  ∀ task ∈ line.past.tasks,
    task ∈ line.past.collected ∨ (task, true) ∈ told.filterMap Event.launched?

variable {moments : Nat → Moment} {line later : Timeline} {commands : List Command}

/-- A sequential command that was just dispatched is awaited. -/
theorem settle_awaited {words : List String} {launch : Launch} {task : TaskId} {ready : Timeline}
    {events : List Event} (reached : TaskTable.Reached line.past line.table)
    (dispatched : (executor moments).dispatch words line = ⟨.ok launch.task?, ready, events⟩)
    (started : launch.task? = some task) (sequential : launch.command.concurrent = false) :
    ∃ during, Awaited task ready during (settle (executor moments) launch ready) := by
  obtain ⟨reached', known, fresh⟩ := fresh_of_dispatch reached (started ▸ dispatched)
  rw [settle_sequential started sequential]
  exact waitFor_awaited reached' known fresh

/-- A run in which every awaited task ends has no wait that fails. -/
theorem Unblocked.of_attended (reached : TaskTable.Reached line.past line.table)
    (attended : Attended (run (executor moments) commands line)) :
    Unblocked (executor moments) commands line := by
  induction commands generalizing line with
  | nil => trivial
  | cons command rest ih =>
      intro launch ready events starts
      obtain ⟨asked, dispatched, rfl, rfl⟩ := start_eq_ok_iff.1 starts
      have reached' := Timeline.dispatch_keeps moments launch.command.words line reached
      rw [dispatched] at reached'
      have reached'' := settle_keeps (Timeline.waitAny_keeps moments) launch ready reached'
      rcases settles : settle (executor moments) launch ready with ⟨failure | ⟨⟩, waited, awaited⟩
      · exfalso
        obtain ⟨task, started, sequential⟩ := exists_of_settle_error settles
        obtain ⟨during, goes⟩ := settle_awaited reached dispatched started sequential
        rw [settles] at goes
        -- The task was announced as awaited, so it ended, and then its wait cannot fail.
        rw [run_cons_blocked starts settles] at attended
        have ended : task ∈ waited.past.ended := by
          refine attended (task, false) ?_ rfl
          simp [Launch.report, started, sequential, Event.launched?]
        cases goes.ends.2 ended
      · rw [settles] at reached''
        rw [run_cons_settled starts settles] at attended
        refine ⟨rfl, ih reached'' fun entry inside => attended entry ?_⟩
        simp [inside]

/-- A wait accepts no task. -/
theorem settle_during (moments : Nat → Moment) (launch : Launch) (ready : Timeline) :
    ∃ during : Past, (settle (executor moments) launch ready).state.past = ready.past ++ during ∧
      during.accepted = [] := by
  rcases launch with ⟨command, _ | task⟩
  · exact ⟨[], by simp [settle], rfl⟩
  · by_cases beside : command.concurrent
    · exact ⟨[], by simp [settle, beside], rfl⟩
    · obtain ⟨during, past, accepted, _⟩ := waitFor_during moments task ready
      exact ⟨during, by simpa [settle, beside] using past, accepted⟩

/-- A request that fails accepts no task. -/
theorem Overtaken.undispatched {words : List String} {failure : Failure} {ready : Timeline}
    {told asked : List Event} (holds : Overtaken line told)
    (fails : (executor moments).dispatch words line = ⟨.error failure, ready, asked⟩) :
    Overtaken ready (told ++ asked) := by
  obtain ⟨ended, past⟩ := Timeline.dispatch_past fails
  intro task known
  have old : task ∈ line.past.tasks := by simpa [past, Timeline.requested] using known
  rcases holds task old with collected | launched
  · exact .inl (by simp [past, collected])
  · exact .inr (by simp [launched])

/-- The task of a command that came to its end was handed back, or the next command may overtake
it. -/
theorem Overtaken.settled {launch : Launch} {ready waited : Timeline}
    {told asked awaited : List Event} (holds : Overtaken line told)
    (reached : TaskTable.Reached line.past line.table)
    (settles : settle (executor moments) launch ready = ⟨.ok (), waited, awaited⟩)
    (dispatched : (executor moments).dispatch launch.command.words line =
      ⟨.ok launch.task?, ready, asked⟩) :
    Overtaken waited (told ++ (asked ++ launch.report ++ awaited)) := by
  obtain ⟨ended, before⟩ := Timeline.dispatch_past dispatched
  obtain ⟨during, after, accepted⟩ := settle_during moments launch ready
  rw [settles] at after
  have past : waited.past = line.past ++
      (ended.map .ended ++ Timeline.requested launch.command.words (.ok launch.task?)) ++
        during := by
    rw [← before]
    exact after
  have tasks : waited.past.tasks = line.past.tasks ++ launch.task?.toList := by
    have none : during.tasks = [] := by simp [Past.tasks, accepted]
    rw [past]
    cases launch.task? <;> simp [Timeline.requested, none]
  intro task known
  rw [tasks, List.mem_append, Option.mem_toList] at known
  rcases known with old | started
  · rcases holds task old with collected | launched
    · exact .inl (by simp [past, collected])
    · exact .inr (by simp [launched])
  · rcases beside : launch.command.concurrent with _ | _
    · obtain ⟨_, goes⟩ := settle_awaited reached dispatched started beside
      rw [settles] at goes
      obtain ⟨_, _, taken, _⟩ := goes.matched rfl
      exact .inl (by rw [goes.past]; simp [taken])
    · exact .inr (by simp [Launch.report, started, beside, Event.launched?])

/-- What a run without failing waits accepts was handed back, or the next command may overtake it. -/
theorem Unblocked.overtaken (unblocked : Unblocked (executor moments) commands line)
    (reached : TaskTable.Reached line.past line.table) {told : List Event}
    (holds : Overtaken line told) :
    Overtaken (run (executor moments) commands line).state
      (told ++ (run (executor moments) commands line).events) := by
  induction commands generalizing line told with
  | nil => simpa [run] using holds
  | cons command rest ih =>
      rcases asked : (executor moments).dispatch command.words line with
        ⟨failure | task?, ready, records⟩
      · rw [run_cons_undispatched asked]
        exact holds.undispatched asked
      · have starts : start (executor moments) command line =
            ⟨.ok ⟨command, task?⟩, ready, records ++ Launch.report ⟨command, task?⟩⟩ :=
          start_eq_ok_iff.2 ⟨records, asked, rfl, rfl⟩
        obtain ⟨waited, awaited, settles, others⟩ := unblocked.exists_settle starts
        have reached' := Timeline.dispatch_keeps moments command.words line reached
        rw [asked] at reached'
        have reached'' :=
          settle_keeps (Timeline.waitAny_keeps moments) ⟨command, task?⟩ ready reached'
        rw [settles] at reached''
        have first := holds.settled reached settles asked
        rw [run_cons_settled starts settles, ← List.append_assoc]
        exact ih others reached'' first

/-- A line returns what became of each of its commands, started or refused as it was decided, unless
the launcher itself fails on one of them. -/
def Answered (verdict : List String → Except Failure (Option Notice)) (commands : List Command)
    (outcome : Outcome Timeline (List Launch)) : Prop :=
  match outcome.answer with
  | .ok launches => launches.map (·.command) = commands ∧
      ∀ launch ∈ launches, launch.task?.isSome ↔ verdict launch.command.words = .ok none
  | .error failure => ∃ command ∈ commands, verdict command.words = .error failure

variable {verdict : List String → Except Failure (Option Notice)} {moments' : Nat → Moment}
  {line' : Timeline}

theorem Unblocked.answered (unblocked : Unblocked (executor moments) commands line)
    (decides : ∀ clock words, (moments clock).launcher.verdict words = verdict words) :
    Answered verdict commands (run (executor moments) commands line) := by
  have answers {words : List String} {before after : Timeline} {asked : List Event}
      {answer : Except Failure (Option TaskId)}
      (dispatched : (executor moments).dispatch words before = ⟨answer, after, asked⟩) :
      (Ledger.dispatch verdict words (Ledger.ofTimeline before)).answer = answer := by
    have seen := congrArg (·.answer) (Ledger.dispatch_seen (decides before.clock words))
    rw [dispatched] at seen
    exact seen.symm
  rcases ran : run (executor moments) commands line with ⟨failure | launches, later, events⟩
  · obtain ⟨before, command, after, _, _, _, _, rfl, _, refused, _⟩ := unblocked.exists_of_error ran
    exact ⟨command, by simp, Ledger.dispatch_answer_eq_error_iff.1 (answers refused)⟩
  · refine ⟨run_commands ran, fun launch inside => ?_⟩
    obtain ⟨_, _, _, dispatched⟩ := exists_dispatch_of_mem ran inside
    exact Ledger.isSome_of_dispatch_answer (answers dispatched)

section Lines

variable {lines : List (List Command)}

/-- The first of several lines comes to its end, and so do the others after it. -/
theorem runEach_cons {rest : List (List Command)}
    (reached : TaskTable.Reached line.past line.table)
    (attended : ∀ outcome ∈ runEach (executor moments) (commands :: rest) line, Attended outcome) :
    let after := (run (executor moments) commands line).state
    Unblocked (executor moments) commands line ∧ TaskTable.Reached after.past after.table ∧
      ∀ outcome ∈ runEach (executor moments) rest after, Attended outcome := by
  intro after
  refine ⟨.of_attended reached (attended _ List.mem_cons_self), ?_, fun outcome inside =>
    attended outcome (List.mem_cons_of_mem _ inside)⟩
  exact run_keeps (Timeline.dispatch_keeps moments) (Timeline.waitAny_keeps moments) commands line
    reached

theorem runEach_answered (decides : ∀ clock words, (moments clock).launcher.verdict words = verdict words)
    (reached : TaskTable.Reached line.past line.table)
    (attended : ∀ outcome ∈ runEach (executor moments) lines line, Attended outcome) :
    List.Forall₂ (Answered verdict) lines (runEach (executor moments) lines line) := by
  induction lines generalizing line with
  | nil => exact .nil
  | cons commands rest ih =>
      obtain ⟨unblocked, reached', attended'⟩ := runEach_cons reached attended
      exact .cons (unblocked.answered decides) (ih reached' attended')

theorem runEach_overtaken (reached : TaskTable.Reached line.past line.table)
    (attended : ∀ outcome ∈ runEach (executor moments) lines line, Attended outcome)
    {told : List Event} (holds : Overtaken line told) :
    Overtaken (afterLines (executor moments) lines line)
      (told ++ (runEach (executor moments) lines line).flatMap (·.events)) := by
  induction lines generalizing line told with
  | nil =>
      rw [runEach, List.flatMap_nil, List.append_nil]
      exact holds
  | cons commands rest ih =>
      obtain ⟨unblocked, reached', attended'⟩ := runEach_cons reached attended
      have first := ih reached' attended' (unblocked.overtaken reached holds)
      rwa [List.append_assoc] at first

/-- Lines are seen alike on two timelines that decide alike. -/
theorem runEach_seen (decides : ∀ clock words, (moments clock).launcher.verdict words = verdict words)
    (decides' : ∀ clock words, (moments' clock).launcher.verdict words = verdict words)
    (reached : TaskTable.Reached line.past line.table)
    (reached' : TaskTable.Reached line'.past line'.table)
    (same : Ledger.ofTimeline line = Ledger.ofTimeline line')
    (attended : ∀ outcome ∈ runEach (executor moments) lines line, Attended outcome)
    (attended' : ∀ outcome ∈ runEach (executor moments') lines line', Attended outcome) :
    (runEach (executor moments) lines line).map (Outcome.seen Ledger.ofTimeline (!·.isTimed)) =
        (runEach (executor moments') lines line').map
          (Outcome.seen Ledger.ofTimeline (!·.isTimed)) ∧
      Ledger.ofTimeline (afterLines (executor moments) lines line) =
        Ledger.ofTimeline (afterLines (executor moments') lines line') := by
  induction lines generalizing line line' with
  | nil => exact ⟨rfl, same⟩
  | cons commands rest ih =>
      obtain ⟨unblocked, after, others⟩ := runEach_cons reached attended
      obtain ⟨unblocked', after', others'⟩ := runEach_cons reached' attended'
      -- Neither timeline is compared with the other one: both look like the ledger.
      have seen := unblocked.run_seen (Ledger.hidden moments) fun words line =>
        Ledger.dispatch_seen (decides line.clock words)
      have seen' := unblocked'.run_seen (Ledger.hidden moments') fun words line =>
        Ledger.dispatch_seen (decides' line.clock words)
      have first := seen.trans (same ▸ seen'.symm)
      obtain ⟨rest, last⟩ := ih after after' (congrArg (·.state) first) others others'
      exact ⟨congrArg₂ List.cons first rest, last⟩

end Lines

/-- Lines do the same on two timelines when they give the same answers, accept the same tasks with
the same words, and cause the same events in the same order, apart from waits and ends. -/
structure Alike (one two : List (Outcome Timeline (List Launch))) : Prop where
  answers : one.map (·.answer) = two.map (·.answer)
  accepted : one.map (·.state.past.accepted) = two.map (·.state.past.accepted)
  events : one.map (·.events.filter (!·.isTimed)) = two.map (·.events.filter (!·.isTimed))

/-- What is left to the time at which tasks end, with all events by then: ends are recorded once, when they
happen, unless the job of a task joins by a failure of which there is no record, and only tasks that the
next command may overtake are outstanding. -/
structure LeftToTime (moments : Nat → Moment) (line : Timeline) (told : List Event) : Prop where
  recorded : (told.filterMap Event.ended?).Sublist line.past.ended
  unrecorded : ∀ task ∈ line.past.ended, task ∉ told.filterMap Event.ended? →
    ∃ clock words job, (task, words) ∈ line.past.accepted ∧
      (moments clock).launcher.reply words = .ok (.started job) ∧
      TaskTable.ended task job.join = []
  once : line.past.ended.Nodup
  overtaken : ∀ entry ∈ line.table.outstanding, (entry.1, true) ∈ told.filterMap Event.launched?

theorem reached_afterLines (moments : Nat → Moment) (lines : List (List Command)) :
    TaskTable.Reached (afterLines (executor moments) lines .start).past
      (afterLines (executor moments) lines .start).table :=
  afterLines_keeps (Timeline.dispatch_keeps moments) (Timeline.waitAny_keeps moments) lines .empty

theorem watched_afterLines {joins : List String → Except Failure (Option Int) → Prop}
    (possible : ∀ clock words job,
      (moments clock).launcher.reply words = .ok (.started job) → joins words job.join)
    (lines : List (List Command)) :
    Watched joins (afterLines (executor moments) lines .start)
      ((runEach (executor moments) lines .start).flatMap (·.events)) :=
  runEach_continues (Watched.run possible) lines [] Watched.start

/-- A join of a job that words start at some time. -/
def Joins (moments : Nat → Moment) (words : List String) (join : Except Failure (Option Int)) : Prop :=
  ∃ clock job, (moments clock).launcher.reply words = .ok (.started job) ∧ job.join = join

theorem leftToTime_of_attended (lines : List (List Command))
    (attended : ∀ outcome ∈ runEach (executor moments) lines .start, Attended outcome) :
    LeftToTime moments (afterLines (executor moments) lines .start)
      ((runEach (executor moments) lines .start).flatMap (·.events)) := by
  have accounted := (reached_afterLines moments lines).accounted
  have watched : Watched (Joins moments) (afterLines (executor moments) lines .start) _ :=
    watched_afterLines (fun clock _ job started => ⟨clock, job, started, rfl⟩) lines
  have overtaken : Overtaken (afterLines (executor moments) lines .start)
      ([] ++ (runEach (executor moments) lines .start).flatMap (·.events)) :=
    runEach_overtaken .empty attended fun _ known => absurd known List.not_mem_nil
  refine ⟨watched.recorded, fun task ended missing => ?_, accounted.once, fun entry inside => ?_⟩
  · obtain ⟨words, _, known, ⟨clock, job, started, rfl⟩, none⟩ :=
      watched.unrecorded task ended missing
    exact ⟨clock, words, job, known, started, none⟩
  · obtain ⟨known, left⟩ := accounted.mem_outstanding_iff.1 inside
    exact (overtaken entry.1 (List.mem_map_of_mem known)).resolve_left left

/-- A task that is outstanding on one timeline and not on another one has ended there. -/
theorem ended_of_not_outstanding {past past' : Past} {table table' : TaskTable}
    (reached : TaskTable.Reached past table) (reached' : TaskTable.Reached past' table')
    (same : past.accepted = past'.accepted) {entry : TaskId × List String}
    (left : entry ∈ table.outstanding) (gone : entry ∉ table'.outstanding) :
    entry.1 ∈ past'.ended := by
  have known := (reached.accounted.mem_outstanding_iff.1 left).1
  rw [same] at known
  have collected : entry.1 ∈ past'.collected := by
    by_contra fresh
    exact gone (reached'.accounted.mem_outstanding_iff.2 ⟨known, fresh⟩)
  exact reached'.accounted.collected_subset collected

/-- Two records of the end of one task are equal when the words of a task decide its join. -/
theorem ended_eq_of_joins {joins : List String → Except Failure (Option Int)}
    {told told' : List Event} (reached : TaskTable.Reached line.past line.table)
    (same : line.past.accepted = line'.past.accepted)
    (watched : Watched (fun words join => join = joins words) line told)
    (watched' : Watched (fun words join => join = joins words) line' told') {task : TaskId}
    {event event' : Event} (inside : event ∈ told) (inside' : event' ∈ told')
    (ended : event.ended? = some task) (ended' : event'.ended? = some task) : event = event' := by
  obtain ⟨words, _, known, rfl, record⟩ := watched.joined event inside task ended
  obtain ⟨words', _, known', rfl, record'⟩ := watched'.joined event' inside' task ended'
  rw [← same] at known'
  have nodup : (line.past.accepted.map (·.1)).Nodup := reached.accounted.tasks_nodup
  have equal := List.inj_on_of_nodup_map nodup known known' rfl
  obtain rfl : words = words' := congrArg (·.2) equal
  exact TaskTable.eq_of_mem_ended record record'

/-- Whenever tasks end, lines do the same one after the other. The starts of programs may depend on
their words only, and every awaited task must end. Then every line is answered, with the same launches
on both timelines, and apart from waits and the records of ends the same happens in the same order.
The records of ends are those of the tasks that ended on each timeline and left one, and equal for a task
that ends on both if the words of a task decide how it ends. Outstanding in the end are tasks of concurrent
commands, and those that are outstanding on one timeline only have ended on the other. -/
theorem alike_of_attended {verdict : List String → Except Failure (Option Notice)}
    (moments moments' : Nat → Moment)
    (decides : ∀ clock words, (moments clock).launcher.verdict words = verdict words)
    (decides' : ∀ clock words, (moments' clock).launcher.verdict words = verdict words)
    (lines : List (List Command))
    (attended : ∀ outcome ∈ runEach (executor moments) lines .start, Attended outcome)
    (attended' : ∀ outcome ∈ runEach (executor moments') lines .start, Attended outcome) :
    let one := runEach (executor moments) lines .start
    let two := runEach (executor moments') lines .start
    let last := afterLines (executor moments) lines .start
    let last' := afterLines (executor moments') lines .start
    Alike one two ∧ List.Forall₂ (Answered verdict) lines one ∧
      LeftToTime moments last (one.flatMap (·.events)) ∧
      LeftToTime moments' last' (two.flatMap (·.events)) ∧
      (∀ entry ∈ last.table.outstanding,
        entry ∉ last'.table.outstanding → entry.1 ∈ last'.past.ended) ∧
      (∀ entry ∈ last'.table.outstanding,
        entry ∉ last.table.outstanding → entry.1 ∈ last.past.ended) ∧
      ∀ joins : List String → Except Failure (Option Int),
        (∀ schedule ∈ [moments, moments'], ∀ clock words job,
          (schedule clock).launcher.reply words = .ok (.started job) → job.join = joins words) →
        ∀ event ∈ one.flatMap (·.events), ∀ event' ∈ two.flatMap (·.events), ∀ task,
          event.ended? = some task → event'.ended? = some task → event = event' := by
  intro one two last last'
  have reached := reached_afterLines moments lines
  have reached' := reached_afterLines moments' lines
  obtain ⟨seen, ledger⟩ := runEach_seen decides decides' .empty .empty rfl attended attended'
  have same : last.past.accepted = last'.past.accepted := congrArg (·.accepted) ledger
  have alike : Alike one two := by
    have answers := congrArg (List.map (·.answer)) seen
    have states := congrArg (List.map (·.state.accepted)) seen
    have events := congrArg (List.map (·.events)) seen
    simp only [List.map_map] at answers states events
    exact ⟨answers, states, events⟩
  refine ⟨alike, runEach_answered decides .empty attended, leftToTime_of_attended lines attended,
    leftToTime_of_attended lines attended', ?_, ?_, ?_⟩
  · exact fun entry left gone => ended_of_not_outstanding reached reached' same left gone
  · exact fun entry left gone => ended_of_not_outstanding reached' reached same.symm left gone
  · intro joins joined event inside event' inside' task ended ended'
    exact ended_eq_of_joins reached same (watched_afterLines (joined moments (by simp)) lines)
      (watched_afterLines (joined moments' (by simp)) lines) inside inside' ended ended'

/-- The first task ends while the second one is awaited, and is handed back instead of it. -/
def discardingMoments (clock : Nat) : Moment :=
  ⟨if clock = 3 then [1, 2] else if clock = 6 then [3] else [], TaskTable.crashLauncher⟩

/-- The first task never ends. -/
def patientMoments (clock : Nat) : Moment :=
  ⟨if clock = 3 then [2] else if clock = 5 then [3] else [], TaskTable.crashLauncher⟩

/-- A concurrent command, one that does not start, and two that are awaited, on two lines. -/
def crashingLines : List (List Command) :=
  [[⟨"crash", ["crash"], true⟩, ⟨"nope", ["nope"], false⟩, ⟨"crash x", ["crash", "x"], false⟩],
    [⟨"crash y", ["crash", "y"], false⟩]]

theorem alike_discarding_patient :
    let one := runEach (executor discardingMoments) crashingLines .start
    let two := runEach (executor patientMoments) crashingLines .start
    let last := afterLines (executor discardingMoments) crashingLines .start
    let last' := afterLines (executor patientMoments) crashingLines .start
    (∀ outcome ∈ one, Attended outcome) ∧ (∀ outcome ∈ two, Attended outcome) ∧ Alike one two ∧
      one.map (fun outcome => outcome.events.count .wait) = [2, 1] ∧
      two.map (fun outcome => outcome.events.count .wait) = [1, 1] ∧
      last.table.outstanding = [] ∧ last'.table.outstanding = [(1, ["crash"])] ∧
      last.past.ended = [1, 2, 3] := by
  intro one two last last'
  have attended : ∀ outcome ∈ one, Attended outcome := by decide +kernel
  have attended' : ∀ outcome ∈ two, Attended outcome := by decide +kernel
  have decides : ∀ clock words, (discardingMoments clock).launcher.verdict words =
      TaskTable.crashLauncher.verdict words := fun _ _ => rfl
  have decides' : ∀ clock words, (patientMoments clock).launcher.verdict words =
      TaskTable.crashLauncher.verdict words := fun _ _ => rfl
  have alike := alike_of_attended discardingMoments patientMoments decides decides' crashingLines
    attended attended'
  exact ⟨attended, attended', alike.1, by decide +kernel, by decide +kernel, by decide +kernel,
    by decide +kernel, by decide +kernel⟩

end Sequencer

end CommandShell
