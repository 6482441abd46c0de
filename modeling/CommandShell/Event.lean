import CommandShell.Failure
import CommandShell.Number.Binary64
import CommandShell.Severity

/-!
What a shell does, as a sequence of events: log records, requests to a scripted executor, reports to
the user, reading, and what programs write and how long they sleep.
-/

namespace CommandShell

/-- Tasks are known by numbers. -/
abbrev TaskId := Int

/-- The threads that write log records: the shell's own, one that awaits each task, and one that
runs each program. -/
inductive Thread where
  | main
  | watcher (task : TaskId)
  | program (name : String)
  deriving DecidableEq, Repr

def Thread.name : Thread → String
  | .main => "MainThread"
  | .watcher task => "taskshell-watch-" ++ toString task
  | .program name => "taskshell-" ++ name

/-- The kinds of log records. -/
inductive Notice where
  | shellOpened (executor source : String)
  | sessionStarted
  | sessionEnded (atEnd : Bool)
  | commandStarted (task : TaskId) (concurrent : Bool) (text : String)
  | commandFailed (text : String)
  | waitMatched (task : TaskId)
  | waitDiscarded (pending got : TaskId)
  | emptyRefused
  | startRefused (program : String) (failure : Failure)
  | taskStarted (task : TaskId) (words : List String)
  | taskCollected (task : TaskId) (program : String)
  | taskEnded (task : TaskId) (status? : Option Int)
  | joinFailed (task : TaskId) (failure : Failure)
  | programFailed (program : String) (failure : Failure)
  deriving DecidableEq, Repr

namespace Notice

/-- A truth value in a log record. -/
def truth (value : Bool) : String := if value then "True" else "False"

/-- A status in a log record. -/
def status (value? : Option Int) : String := (value?.map toString).getD "None"

/-- The line that a log record shows. -/
def message : Notice → String
  | .shellOpened executor source => "cli.session executor=" ++ executor ++ " source=" ++ source
  | .sessionStarted => "session.start"
  | .sessionEnded atEnd => "session.end eof=" ++ truth atEnd
  | .commandStarted task concurrent text =>
      "sequencer.dispatch task_id=" ++ toString task ++ " concurrent=" ++ truth concurrent ++
        " command=" ++ quoted text
  | .commandFailed text => "sequencer.dispatch.failed command=" ++ quoted text
  | .waitMatched task => "sequencer.wait.matched task_id=" ++ toString task
  | .waitDiscarded pending got =>
      "sequencer.wait.discard pending=" ++ toString pending ++ " got=" ++ toString got
  | .emptyRefused => "executor.dispatch.rejected reason=empty-argv"
  | .startRefused program failure =>
      "executor.dispatch.failed program=" ++ quoted program ++ " error=" ++ failure.message
  | .taskStarted task words =>
      "executor.dispatch task_id=" ++ toString task ++ " argv=" ++ quotedTuple words
  | .taskCollected task program =>
      "executor.completed task_id=" ++ toString task ++ " program=" ++ quoted program
  | .taskEnded task status? =>
      "executor.exit task_id=" ++ toString task ++ " status=" ++ status status?
  | .joinFailed task _ => "executor.join.error task_id=" ++ toString task
  | .programFailed program _ => "builtin.program.error program=" ++ quoted program

/-- The failure shown under a log record. -/
def failure? : Notice → Option Failure
  | .joinFailed _ failure => some failure
  | .programFailed _ failure => some failure
  | _ => none

/-- A record that shows a failure is an error, and every other record is for debugging. -/
def severity (notice : Notice) : Severity :=
  if notice.failure?.isSome then .error else .debug

end Notice

/-- What a running program does. -/
inductive Deed where
  | write (text : String)
  | flush
  | sleep (duration : Binary64)
  deriving DecidableEq, Repr

/-- The duration of a deed that sleeps. -/
def Deed.sleep? : Deed → Option Binary64
  | .sleep duration => some duration
  | _ => none

/-- The streams of the shell. -/
inductive Channel where
  | output
  | error
  deriving DecidableEq, Repr

/-- One thing that happened. -/
inductive Event where
  | log (thread : Thread) (notice : Notice)
  | dispatch (words : List String)
  | wait
  | started (text : String) (task : TaskId)
  | failed (text : String)
  | closed
  | prompt (text : String)
  | ask (question mark : String)
  | deed (deed : Deed)
  | hostOutput (text : String)
  | print (channel : Channel) (text : String)
  deriving DecidableEq, Repr

/-- What a thread of its own records of a failure: nothing if the failure is meant for the whole shell. -/
def Failure.records (failure : Failure) (thread : Thread) (notice : Notice) : List Event :=
  if failure.isInterruption || failure.isFatal then [] else [.log thread notice]

theorem Failure.mem_records_iff {failure : Failure} {thread : Thread} {notice : Notice}
    {event : Event} : event ∈ failure.records thread notice ↔
      (failure.isInterruption = false ∧ failure.isFatal = false) ∧ event = .log thread notice := by
  rw [← Bool.or_eq_false_iff, records]
  split
  · rename_i severe
    simp [severe]
  · rename_i mild
    simp [mild]

end CommandShell
