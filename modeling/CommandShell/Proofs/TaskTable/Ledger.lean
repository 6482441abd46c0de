import CommandShell.Proofs.Sequencer.Unblocked
import CommandShell.Proofs.TaskTable.Timeline

/-!
What requests alone decide on a timeline. Which tasks are accepted and with which numbers, and every
event but the waits and the ends of tasks, are the same on a ledger on which no task ever ends.
-/

namespace CommandShell

/-- Why words are refused, and nothing when they start a job. -/
def Reply.refusal? : Reply → Option Notice
  | .refused notice => some notice
  | .started _ => none

/-- What a launcher decides about words, whatever job it starts. -/
def Launcher.verdict (launcher : Launcher) (words : List String) : Except Failure (Option Notice) :=
  (launcher.reply words).map Reply.refusal?

namespace Event

/-- Waits, what the shell records of them, and what the watchers of tasks record. -/
def isTimed : Event → Bool
  | .wait => true
  | .log (.watcher _) _ => true
  | .log .main (.taskCollected _ _) => true
  | .log .main (.waitMatched _) => true
  | .log .main (.waitDiscarded _ _) => true
  | _ => false

end Event

/-- What requests alone decide: how many tasks were accepted, and which ones with which words. -/
structure Ledger where
  count : Nat
  accepted : List (TaskId × List String)
  deriving DecidableEq, Repr

namespace Ledger

/-- The requests on a timeline. -/
def ofTimeline (line : Timeline) : Ledger := ⟨line.table.accepted, line.past.accepted⟩

/-- Answer a request as it was decided, with the next number. -/
def dispatch (verdict : List String → Except Failure (Option Notice)) (words : List String) :
    Step Ledger (Option TaskId) := fun ledger =>
  match verdict words with
  | .error failure => ⟨.error failure, ledger, [.dispatch words]⟩
  | .ok (some notice) => ⟨.ok none, ledger, [.dispatch words, .log .main notice]⟩
  | .ok none =>
      let task : TaskId := ledger.count + 1
      ⟨.ok (some task), ⟨ledger.count + 1, ledger.accepted ++ [(task, words)]⟩,
        [.dispatch words, .log .main (.taskStarted task words)]⟩

/-- An executor on which no task ever ends. -/
def executor (verdict : List String → Except Failure (Option Notice)) : Executor Ledger :=
  Sequencer.startsOnly (dispatch verdict)

section Verdicts

variable {verdict : List String → Except Failure (Option Notice)} {words : List String}
  {ledger : Ledger}

theorem dispatch_answer_eq_error_iff {failure : Failure} :
    (dispatch verdict words ledger).answer = .error failure ↔ verdict words = .error failure := by
  rcases decided : verdict words with other | _ | notice <;> simp [dispatch, decided]

/-- Words get a number exactly when they are not refused. -/
theorem isSome_of_dispatch_answer {task? : Option TaskId}
    (answers : (dispatch verdict words ledger).answer = .ok task?) :
    task?.isSome ↔ verdict words = .ok none := by
  rcases decided : verdict words with failure | _ | notice
  · simp [dispatch, decided] at answers
  · obtain rfl : some _ = task? := by simpa [dispatch, decided] using answers
    simp
  · obtain rfl : none = task? := by simpa [dispatch, decided] using answers
    simp

end Verdicts

/-- The same requests, and events that only the time of ends decides. -/
def Unseen (ledger : Ledger) (line : Timeline) (told : List Event) : Prop :=
  ofTimeline line = ledger ∧ ∀ event ∈ told, event.isTimed = true

variable {moments : Nat → Moment} {ledger : Ledger}

theorem unseen_tell {events : List Event} (timed : ∀ event ∈ events, event.isTimed = true) :
    (Step.tell events).Continues (Unseen ledger) := by
  rintro line told ⟨same, all⟩
  refine ⟨same, fun other inside => ?_⟩
  rcases List.mem_append.1 inside with before | after
  · exact all other before
  · exact timed other after

theorem unseen_passing : (Timeline.passing moments).Continues (Unseen ledger) := by
  apply Timeline.passing_continues
  · exact fun line told clock holds => holds
  · rintro line told task job _ holds
    have ended : ∀ event ∈ TaskTable.ended task job.join, event.isTimed = true := by
      intro event inside
      rcases TaskTable.mem_ended inside with ⟨_, rfl⟩ | ⟨_, rfl⟩
      · rfl
      · rfl
    obtain ⟨same, all⟩ := unseen_tell ended line told holds
    refine ⟨?_, all⟩
    simpa [ofTimeline, TaskTable.finish] using same

theorem unseen_collecting : Timeline.collecting.Continues (Unseen ledger) := by
  intro line told holds
  rcases waited : TaskTable.waitAny line.table with ⟨failure | task, table, events⟩
  · obtain ⟨_, _, rfl, rfl⟩ := TaskTable.waitAny_eq_error_iff.1 waited
    simpa [Timeline.collecting, waited, Timeline.awaited] using holds
  · obtain ⟨rest, _, rfl, rfl⟩ := TaskTable.waitAny_eq_ok_iff.1 waited
    obtain ⟨same, all⟩ := holds
    have timed (program : String) : (Event.log .main (.taskCollected task program)).isTimed = true :=
      rfl
    refine ⟨?_, by simpa [Timeline.collecting, waited, or_imp, forall_and, timed] using all⟩
    simpa [ofTimeline, Timeline.collecting, waited, Timeline.awaited] using same

/-- Waits are not seen where only requests and untimed events are. -/
theorem hidden (moments : Nat → Moment) :
    Sequencer.Hidden (Timeline.executor moments) ofTimeline (!·.isTimed) := by
  have waits (line : Timeline) : Unseen (ofTimeline line)
      ((Timeline.executor moments).waitAny line).state
      ((Timeline.executor moments).waitAny line).events := by
    have continues : (Timeline.executor moments).waitAny.Continues (Unseen (ofTimeline line)) := by
      rw [Timeline.waitAny_eq]
      exact (unseen_tell (by simp [Event.isTimed])).bind fun _ => unseen_passing.bind fun _ => unseen_collecting
    exact continues line [] ⟨rfl, by simp⟩
  constructor
  case state => exact fun line => (waits line).1
  case events => exact fun line event inside => by simp [(waits line).2 event inside]
  case matched => exact fun _ => rfl
  case discarded => exact fun _ _ => rfl

/-- Once its moment has passed, a request is answered as the launcher decides. -/
theorem enrolling_seen {verdict : List String → Except Failure (Option Notice)}
    {launcher : Launcher} {words : List String} (decides : launcher.verdict words = verdict words)
    (line : Timeline) :
    ((Timeline.enrolling launcher words line).after [.dispatch words]).seen ofTimeline
        (!·.isTimed) =
      ((executor verdict).dispatch words (ofTimeline line)).seen id (!·.isTimed) := by
  rw [Launcher.verdict] at decides
  rcases reply : launcher.reply words with failure | notice | job
  · rw [reply] at decides
    simp [Timeline.enrolling, TaskTable.enroll, TaskTable.respond, reply, executor,
      Sequencer.startsOnly, dispatch, ← decides, Except.map, Outcome.seen, Outcome.after,
      Timeline.requested, ofTimeline]
  · rw [reply] at decides
    simp [Timeline.enrolling, TaskTable.enroll, TaskTable.respond, reply, executor,
      Sequencer.startsOnly, dispatch, ← decides, Except.map, Outcome.seen, Outcome.after,
      Timeline.requested, ofTimeline, Reply.refusal?]
  · rw [reply] at decides
    simp [Timeline.enrolling, TaskTable.enroll, TaskTable.respond, reply, executor,
      Sequencer.startsOnly, dispatch, ← decides, Except.map, Outcome.seen, Outcome.after,
      Timeline.requested, ofTimeline, Reply.refusal?, TaskTable.accept, TaskTable.nextTask]

/-- A request on a timeline is answered as the launcher of its moment decides. -/
theorem dispatch_seen {verdict : List String → Except Failure (Option Notice)}
    {words : List String} {line : Timeline}
    (decides : (moments line.clock).launcher.verdict words = verdict words) :
    ((Timeline.executor moments).dispatch words line).seen ofTimeline (!·.isTimed) =
      ((executor verdict).dispatch words (ofTimeline line)).seen id (!·.isTimed) := by
  obtain ⟨same, timed⟩ : Unseen (ofTimeline line) (line.pass moments).1 (line.pass moments).2 :=
    unseen_passing line [] ⟨rfl, by simp⟩
  have nothing : (line.pass moments).2.filter (!·.isTimed) = [] :=
    List.filter_eq_nil_iff.2 fun event inside => by simp [timed event inside]
  have asked : Event.isTimed (.dispatch words) = false := rfl
  rw [← same, ← enrolling_seen decides, Timeline.dispatch_eq,
    Step.bind_ok (Step.tell_apply _ _), Step.bind_ok (Timeline.passing_apply _ _)]
  simp [Outcome.seen, Outcome.after, nothing, asked]

end Ledger

end CommandShell
