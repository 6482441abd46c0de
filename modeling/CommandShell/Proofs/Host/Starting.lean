import CommandShell.Proofs.Shell.Launchers
import CommandShell.Proofs.Text.Printable

/-!
Starting processes when nothing is known of the host but what the start of a process may raise.
`starter_alike` says that the host of the shell is one such host. `Launcher.Shipped` names every
launcher that comes with the shell.
-/

namespace CommandShell

open Text (Printable printable_append printable_of_all)

namespace Host

/-- What the start of a process may raise: a system error, which may name its cause, an error about a
value, or anything else. -/
inductive Raised where
  | system (cause? : Option String) (text : String)
  | value (text : String)
  | other (failure : Failure)
  deriving DecidableEq, Repr

/-- The reason why a process does not start, if what was raised is one. An empty cause is none. -/
def Raised.reason? : Raised → Option String
  | .system cause? text => some ((cause?.filter (· ≠ "")).getD text)
  | .value text => some text
  | .other _ => none

/-- What to do about what was raised. -/
def Raised.advice : Raised → String
  | .value _ => Obstacle.nulByte.advice
  | _ => Obstacle.missing.advice

/-- The failure to start a program. What gives no reason is passed on. -/
def Raised.failure (program : String) : Raised → Failure
  | .other failure => failure
  | raised => .stated .dispatch
      ("cannot start " ++ quoted program ++ ": " ++ raised.reason?.getD "") (some raised.advice)

/-- A process that was started: what it writes, and how waiting for it ends. -/
structure Child where
  gate? : Option String
  output : List String
  join : Except Failure (Option Int)

def Child.job (child : Child) : Job := ⟨child.gate?, child.output.map .hostOutput, child.join⟩

/-- Start processes by what a host does with a name and arguments. -/
def starter (spawn : String → List String → Except Raised Child) : Launcher := fun name arguments =>
  match spawn name arguments with
  | .error raised => .error (raised.failure name)
  | .ok child => .ok child.job

section Starter

variable {spawn : String → List String → Except Raised Child} {name : String}
  {arguments : List String}

theorem family_of_reason {raised : Raised} {reason : String}
    (reasoned : raised.reason? = some reason) (program : String) :
    (raised.failure program).family? = some .dispatch ∧
      (raised.failure program).message = "cannot start " ++ quoted program ++ ": " ++ reason := by
  cases raised with
  | other failure => cases reasoned
  | system cause? text =>
      cases reasoned
      exact ⟨rfl, rfl⟩
  | value text =>
      cases reasoned
      exact ⟨rfl, rfl⟩

theorem failure_of_starter {failure : Failure}
    (failed : starter spawn name arguments = .error failure) :
    ∃ raised, spawn name arguments = .error raised ∧ failure = raised.failure name := by
  unfold starter at failed
  split at failed
  · rename_i raised spawned
    cases failed
    exact ⟨raised, spawned, rfl⟩
  · cases failed

theorem child_of_starter {job : Job} (started : starter spawn name arguments = .ok job) :
    ∃ child, spawn name arguments = .ok child ∧ job = child.job := by
  unfold starter at started
  split at started
  · cases started
  · rename_i child spawned
    cases started
    exact ⟨child, spawned, rfl⟩

/-- A start that raises nothing but reasons is refused with one. -/
theorem family_of_starter
    (reasoned : ∀ name arguments raised, spawn name arguments = .error raised →
      raised.reason?.isSome)
    {failure : Failure} (failed : starter spawn name arguments = .error failure) :
    failure.family? = some .dispatch := by
  obtain ⟨raised, spawned, rfl⟩ := failure_of_starter failed
  obtain ⟨reason, stated⟩ := Option.isSome_iff_exists.1 (reasoned _ _ raised spawned)
  exact (family_of_reason stated name).1

theorem event_of_starter {job : Job} {event : Event}
    (started : starter spawn name arguments = .ok job) (inside : event ∈ job.events) :
    ∃ text, event = .hostOutput text := by
  obtain ⟨child, _, rfl⟩ := child_of_starter started
  obtain ⟨text, _, rfl⟩ := List.mem_map.1 inside
  exact ⟨text, rfl⟩

/-- The processes of a host on which nothing else is raised and every process ends by itself. -/
def processesOf (spawn : String → List String → Except Raised Child)
    (reasoned : ∀ name arguments raised, spawn name arguments = .error raised →
      raised.reason?.isSome)
    (ungated : ∀ name arguments child, spawn name arguments = .ok child → child.gate? = none) :
    Processes where
  launcher := starter spawn
  refused := family_of_starter reasoned
  ungated started := by
    obtain ⟨child, spawned, rfl⟩ := child_of_starter started
    exact ungated _ _ child spawned
  written := event_of_starter

end Starter

section Spawn

/-- What stands in the way of a program, as the start of a process raises it. -/
def raisedBy : Obstacle → Raised
  | .nulByte => .value Obstacle.nulByte.message
  | obstacle => .system (some obstacle.message) obstacle.message

/-- What the host of the shell does with a name and arguments. -/
def spawn (name : String) (arguments : List String) : Except Raised Child :=
  match find name arguments with
  | .error obstacle => .error (raisedBy obstacle)
  | .ok program =>
      let run := run name program (arguments.map Bytes.ofString)
      .ok ⟨none, [Bytes.toText run.output], .ok (some run.status)⟩

/-- Two answers of launchers that nothing shown tells apart: the same job, or failures of one family
with the same words. -/
def Alike : Except Failure Job → Except Failure Job → Prop
  | .ok job, .ok job' => job = job'
  | .error failure, .error failure' =>
      failure.family? = failure'.family? ∧ failure.kind = failure'.kind ∧
        failure.message = failure'.message ∧ failure.hint? = failure'.hint?
  | _, _ => False

theorem raisedBy_alike (name : String) (obstacle : Obstacle) :
    Alike (.error (.cannotStart name obstacle)) (.error ((raisedBy obstacle).failure name)) := by
  cases obstacle <;> exact ⟨rfl, rfl, rfl, rfl⟩

/-- The host of the shell is one of the hosts that start processes. -/
theorem starter_alike (name : String) (arguments : List String) :
    Alike (launcher name arguments) (starter spawn name arguments) := by
  rcases found : find name arguments with obstacle | program
  · have started : starter spawn name arguments = .error ((raisedBy obstacle).failure name) := by
      simp [starter, spawn, found]
    have launched : launcher name arguments = .error (.cannotStart name obstacle) := by
      simp [launcher, found]
    rw [launched, started]
    exact raisedBy_alike name obstacle
  · simp [launcher, starter, spawn, found, Alike, Child.job]

end Spawn

end Host

/-- The launchers that come with the shell: the programs of any registry, the host of the shell, and
any host whose starts raise nothing but what is allowed. -/
inductive Launcher.Shipped (allowed : Host.Raised → Prop) : Launcher → Prop
  | builtin (registry : Registry) : Shipped allowed registry.launcher
  | host : Shipped allowed Host.launcher
  | process {spawn : String → List String → Except Host.Raised Host.Child}
      (raises : ∀ name arguments raised, spawn name arguments = .error raised → allowed raised) :
      Shipped allowed (Host.starter spawn)

end CommandShell
