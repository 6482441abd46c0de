import CommandShell.Host.Script.Run
import CommandShell.TaskTable

/-!
Starting programs of the host.
-/

namespace CommandShell.Host

/-- A word that is given to a program has fewer bytes than this. -/
def wordLimit : Nat := 131072

/-- The path, the words and the variables that a program is started with take up at most this many
bytes, a quarter of its stack. -/
def startLimit : Nat := 2097152

/-- The bytes that a text takes up with its end mark. -/
def room (text : Bytes) : Nat := text.length + 1

/-- The bytes that texts take up together, each of them with its address. -/
def roomOfAll (texts : List Bytes) : Nat := texts.foldl (fun total text => total + room text + 8) 0

/-- The variables that a program is started with, as texts. -/
def environment : List Bytes :=
  Script.hostVariables.map fun (name, content) => name ++ '=' :: content.value?.getD []

/-- Whether a program at a path can be started with words. -/
def fits (words : List Bytes) (path : String) : Bool :=
  words.all (·.length < wordLimit) &&
    room (Bytes.ofString path) + roomOfAll words + roomOfAll environment ≤ startLimit

/-- At most this many signals reach processes of a run that have run beyond their time. -/
def signalLimit : Nat := 1000

/-- Run a program of the host under the name it was called by, with no input. -/
def run (title program : String) (arguments : List Bytes) : Run :=
  Script.runProgram (Bytes.ofString title) program arguments [] signalLimit

/-- The program that words name. No word may hold the character that ends texts on the host, and the words
must fit where the program is found. -/
def find (name : String) (arguments : List String) : Except Obstacle String :=
  if (name :: arguments).any (·.contains '\x00') then .error .nulByte
  else locate Script.programNames (fits ((name :: arguments).map Bytes.ofString)) name

/-- Start a program of the host. -/
def launcher : Launcher := fun name arguments =>
  match find name arguments with
  | .error obstacle => .error (.cannotStart name obstacle)
  | .ok program =>
      let run := run name program (arguments.map Bytes.ofString)
      .ok {
        gate? := none
        events := [.hostOutput (Bytes.toText run.output)]
        join := .ok (some run.status) }

variable {name : String} {arguments : List String}

/-- A program that does not start has an obstacle in its way. -/
theorem exists_obstacle_of_launcher {failure : Failure}
    (failed : launcher name arguments = .error failure) :
    ∃ obstacle, failure = .cannotStart name obstacle := by
  unfold launcher at failed
  split at failed
  · rename_i obstacle found
    cases failed
    exact ⟨obstacle, rfl⟩
  · cases failed

/-- A program that starts runs at once, and what it writes is all that is seen of it. -/
theorem exists_output_of_launcher {job : Job} (started : launcher name arguments = .ok job) :
    job.gate? = none ∧ ∃ text, job.events = [.hostOutput text] := by
  unfold launcher at started
  split at started
  · cases started
  · cases started
    exact ⟨rfl, _, rfl⟩

end Host

/-- What starts the processes of a host. A process that does not start is refused with a reason. All
that is seen of one that starts is what it writes, and it ends by itself. -/
structure Processes where
  launcher : Launcher
  refused : ∀ {name : String} {arguments : List String} {failure : Failure},
    launcher name arguments = .error failure → failure.family? = some .dispatch
  ungated : ∀ {name : String} {arguments : List String} {job : Job},
    launcher name arguments = .ok job → job.gate? = none
  written : ∀ {name : String} {arguments : List String} {job : Job} {event : Event},
    launcher name arguments = .ok job → event ∈ job.events → ∃ text, event = .hostOutput text

/-- The processes of the host whose programs are known. -/
def Host.processes : Processes where
  launcher := launcher
  refused failed := by
    obtain ⟨obstacle, rfl⟩ := exists_obstacle_of_launcher failed
    rfl
  ungated started := (exists_output_of_launcher started).1
  written started inside := by
    obtain ⟨_, text, wrote⟩ := exists_output_of_launcher started
    rw [wrote, List.mem_singleton] at inside
    exact ⟨text, inside⟩

end CommandShell
