import CommandShell.Proofs.Console.Screen

/-!
The parts of which the error stream and the lines of other threads are put together: log records and
texts that are none. The parts of a run do not depend on the least severity that is shown. It only
decides which of the records are left out.
-/

namespace CommandShell

/-- A log record. -/
def Event.isLog : Event → Bool
  | .log _ _ => true
  | _ => false

/-- A log record with the thread that wrote it, or a text that is no record. -/
inductive Entry where
  | record (thread : Thread) (notice : Notice)
  | text (content : String)
  deriving DecidableEq, Repr

namespace Entry

/-- The lines of a record. -/
def lines : Entry → List String
  | record thread notice => Console.logLines thread notice
  | text _ => []

/-- How an entry stands on the error stream. -/
def shown : Entry → String
  | record thread notice => String.join ((Console.logLines thread notice).map (· ++ "\n"))
  | text content => content

/-- A text is no record. -/
def isText : Entry → Bool
  | record _ _ => false
  | text _ => true

/-- A record is shown when it is not below the threshold, and a text always. -/
def reaches (threshold : Severity) : Entry → Bool
  | record _ notice => decide (threshold.rank ≤ notice.severity.rank)
  | text _ => true

theorem reaches_of_isText {threshold : Severity} {entry : Entry} (text : entry.isText = true) :
    entry.reaches threshold = true := by
  cases entry with
  | record thread notice => cases text
  | text content => rfl

/-- What reaches a threshold reaches every lower one. -/
theorem reaches_and {low high : Severity} (ordered : low.rank ≤ high.rank) (entry : Entry) :
    (entry.reaches high && entry.reaches low) = entry.reaches high := by
  cases entry with
  | record thread notice =>
      simp only [reaches, Bool.and_eq_left_iff_imp, decide_eq_true_eq]
      exact Nat.le_trans ordered
  | text content => rfl

/-- What an event adds to the error stream when every record is shown. -/
def onError? (styled : Bool) : Event → Option Entry
  | .log .main notice => some (record .main notice)
  | .failed command => some (text (Console.report styled (Console.failedText command)))
  | .print .error content => some (text content)
  | _ => none

/-- What an event adds to the lines of other threads when every record is shown. -/
def ofWorker? : Event → Option Entry
  | .log .main _ => none
  | .log thread notice => some (record thread notice)
  | _ => none

end Entry

/-- The entries that events leave on the error stream of a console. -/
def Console.errorEntries (console : Console) (events : List Event) : List Entry :=
  (events.filterMap (Entry.onError? console.styled)).filter (Entry.reaches console.threshold)

/-- The records that events leave on other threads. -/
def Console.workerEntries (console : Console) (events : List Event) : List Entry :=
  (events.filterMap Entry.ofWorker?).filter (Entry.reaches console.threshold)

namespace Console

variable {console low high : Console}

/-- A higher threshold leaves out the records below it and nothing else. -/
theorem filter_reaches (ordered : low.threshold.rank ≤ high.threshold.rank) (entries : List Entry) :
    entries.filter (Entry.reaches high.threshold) =
      (entries.filter (Entry.reaches low.threshold)).filter (Entry.reaches high.threshold) := by
  rw [List.filter_filter]
  exact List.filter_congr fun entry _ => (Entry.reaches_and ordered entry).symm

theorem errorEntries_eq_filter (styled : low.styled = high.styled)
    (ordered : low.threshold.rank ≤ high.threshold.rank) (events : List Event) :
    high.errorEntries events = (low.errorEntries events).filter (Entry.reaches high.threshold) := by
  rw [errorEntries, errorEntries, styled]
  exact filter_reaches ordered _

theorem workerEntries_eq_filter (ordered : low.threshold.rank ≤ high.threshold.rank)
    (events : List Event) :
    high.workerEntries events =
      (low.workerEntries events).filter (Entry.reaches high.threshold) :=
  filter_reaches ordered _

/-- The texts on the error stream do not depend on the threshold. -/
theorem filter_isText_errorEntries (console : Console) (events : List Event) :
    (console.errorEntries events).filter Entry.isText =
      (events.filterMap (Entry.onError? console.styled)).filter Entry.isText := by
  rw [errorEntries, List.filter_filter]
  refine List.filter_congr fun entry _ => ?_
  rw [Bool.and_eq_left_iff_imp]
  exact Entry.reaches_of_isText

/-- The texts on the error stream are the entries of the events that are no records. -/
theorem filter_isText_eq_filter_isLog (console : Console) (events : List Event) :
    (console.errorEntries events).filter Entry.isText =
      console.errorEntries (events.filter (!·.isLog)) := by
  rw [filter_isText_errorEntries, errorEntries, List.filterMap_filter, List.filter_filterMap,
    List.filter_filterMap]
  congr 1
  funext event
  cases event with
  | log thread notice => cases thread <;> rfl
  | print channel text => cases channel <;> rfl
  | _ => rfl

end Console

namespace Screen

variable {console : Console}

theorem ofLog_of_reaches {thread : Thread} {notice : Notice}
    (reaches : (Entry.record thread notice).reaches console.threshold = true) :
    ofLog console thread notice =
      if thread = .main then { blank with error := (Entry.record thread notice).shown }
      else { blank with workerLog := (Entry.record thread notice).lines } := by
  have above : ¬ notice.severity.rank < console.threshold.rank := by
    simpa [Entry.reaches] using reaches
  simp only [ofLog, if_neg above, Entry.shown, Entry.lines]

theorem ofLog_of_not_reaches {thread : Thread} {notice : Notice}
    (falls : (Entry.record thread notice).reaches console.threshold = false) :
    ofLog console thread notice = blank := by
  have below : notice.severity.rank < console.threshold.rank := by
    simpa [Entry.reaches] using falls
  exact if_pos below

theorem ofEvent_error (console : Console) (event : Event) :
    (ofEvent console event).error = String.join ((console.errorEntries [event]).map Entry.shown) := by
  cases event with
  | log thread notice =>
      rcases falls : (Entry.record thread notice).reaches console.threshold with _ | _
      · rw [ofEvent, ofLog_of_not_reaches falls]
        cases thread with
        | main => simp [Console.errorEntries, Entry.onError?, falls, blank]
        | _ => rfl
      · rw [ofEvent, ofLog_of_reaches falls]
        cases thread with
        | main => simp [Console.errorEntries, Entry.onError?, falls]
        | _ => rfl
  | failed text =>
      simp [ofEvent, Console.errorEntries, Entry.onError?, List.filter_cons, Entry.reaches,
        Entry.shown]
  | print channel text =>
      cases channel with
      | output => rfl
      | error =>
          simp [ofEvent, Console.errorEntries, Entry.onError?, List.filter_cons, Entry.reaches,
            Entry.shown]
  | deed deed => cases deed <;> rfl
  | _ => rfl

/-- The error stream shows its entries. -/
theorem ofEvents_error (console : Console) (events : List Event) :
    (ofEvents console events).error =
      String.join ((console.errorEntries events).map Entry.shown) := by
  induction events with
  | nil => rfl
  | cons event rest ih =>
      have split : console.errorEntries (event :: rest) =
          console.errorEntries [event] ++ console.errorEntries rest := by
        rw [Console.errorEntries, ← List.singleton_append, List.filterMap_append,
          List.filter_append]
        rfl
      rw [ofEvents_cons, split, List.map_append, String.join_append, ← ofEvent_error, ← ih]
      rfl

theorem ofEvent_workerLog (console : Console) (event : Event) :
    (ofEvent console event).workerLog = (console.workerEntries [event]).flatMap Entry.lines := by
  cases event with
  | log thread notice =>
      rcases falls : (Entry.record thread notice).reaches console.threshold with _ | _
      · rw [ofEvent, ofLog_of_not_reaches falls]
        cases thread <;> simp [Console.workerEntries, Entry.ofWorker?, falls, blank]
      · rw [ofEvent, ofLog_of_reaches falls]
        cases thread <;> simp [Console.workerEntries, Entry.ofWorker?, falls, blank]
  | print channel text => cases channel <;> rfl
  | deed deed => cases deed <;> rfl
  | _ => rfl

/-- The lines of other threads are those of their records. -/
theorem ofEvents_workerLog (console : Console) (events : List Event) :
    (ofEvents console events).workerLog = (console.workerEntries events).flatMap Entry.lines := by
  induction events with
  | nil => rfl
  | cons event rest ih =>
      have split : console.workerEntries (event :: rest) =
          console.workerEntries [event] ++ console.workerEntries rest := by
        rw [Console.workerEntries, ← List.singleton_append, List.filterMap_append,
          List.filter_append]
        rfl
      rw [ofEvents_cons, split, List.flatMap_append, ← ofEvent_workerLog, ← ih]
      rfl

/-- What a screen shows apart from the streams that hold log records. -/
def unlogged (screen : Screen) : Screen := { screen with error := "", workerLog := [] }

theorem ofLog_unlogged (console : Console) (thread : Thread) (notice : Notice) :
    (ofLog console thread notice).unlogged = blank := by
  rcases falls : (Entry.record thread notice).reaches console.threshold with _ | _
  · rw [ofLog_of_not_reaches falls]
    rfl
  · rw [ofLog_of_reaches falls]
    split <;> rfl

theorem append_unlogged (first second : Screen) :
    (first.append second).unlogged = first.unlogged.append second.unlogged := by
  simp [unlogged, append]

/-- Streams without log records show the events that are no records. -/
theorem ofEvents_filter_isLog (console : Console) (events : List Event) :
    (ofEvents console (events.filter (!·.isLog))).unlogged = (ofEvents console events).unlogged := by
  induction events with
  | nil => rfl
  | cons event rest ih =>
      rw [ofEvents_cons, append_unlogged, ← ih]
      cases event with
      | log thread notice =>
          rw [List.filter_cons_of_neg (by simp [Event.isLog]), ofEvent, ofLog_unlogged, blank_append]
      | _ =>
          rw [List.filter_cons_of_pos (by simp [Event.isLog]), ofEvents_cons, append_unlogged]

/-- Streams without log records do not depend on the threshold. -/
theorem ofEvents_unlogged {low high : Console} (styled : low.styled = high.styled)
    (events : List Event) : (ofEvents low events).unlogged = (ofEvents high events).unlogged := by
  have one (event : Event) : (ofEvent low event).unlogged = (ofEvent high event).unlogged := by
    cases event with
    | log thread notice => rw [ofEvent, ofEvent, ofLog_unlogged, ofLog_unlogged]
    | started text task => rw [ofEvent, ofEvent, styled]
    | failed text => rw [ofEvent, ofEvent, styled]
    | closed => rw [ofEvent, ofEvent, styled]
    | print channel text => cases channel <;> rfl
    | deed deed => cases deed <;> rfl
    | _ => rfl
  induction events with
  | nil => rfl
  | cons event rest ih =>
      rw [ofEvents_cons, ofEvents_cons, append_unlogged, append_unlogged, one, ih]

end Screen

end CommandShell
