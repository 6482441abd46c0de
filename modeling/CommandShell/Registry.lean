import CommandShell.Program
import CommandShell.TaskTable
import CommandShell.Text.LetterCase

/-!
The programs that the shell runs by itself, found by name in any case of letters.
-/

namespace CommandShell

/-- Programs under lower-case names, in the order of the names and with no name twice. -/
structure Registry where
  entries : List (String × Program)
  sorted : entries.Pairwise fun first second => first.1 < second.1

namespace Registry

/-- Put a program under a name; a program that was there before goes. -/
def place (name : String) (program : Program) : List (String × Program) → List (String × Program)
  | [] => [(name, program)]
  | entry :: rest =>
      if name < entry.1 then (name, program) :: entry :: rest
      else if name = entry.1 then (name, program) :: rest
      else entry :: place name program rest

theorem mem_place {name : String} {program : Program} {entries : List (String × Program)}
    {entry : String × Program} (h : entry ∈ place name program entries) :
    entry = (name, program) ∨ entry ∈ entries := by
  induction entries with
  | nil => simpa [place] using h
  | cons first rest hypothesis =>
      unfold place at h
      split at h
      · simpa using h
      · split at h
        · rcases List.mem_cons.1 h with same | inside
          · exact .inl same
          · exact .inr (List.mem_cons_of_mem _ inside)
        · rcases List.mem_cons.1 h with same | inside
          · exact .inr (by simp [same])
          · rcases hypothesis inside with same | old
            · exact .inl same
            · exact .inr (List.mem_cons_of_mem _ old)

theorem place_sorted (name : String) (program : Program) {entries : List (String × Program)}
    (sorted : entries.Pairwise fun first second => first.1 < second.1) :
    (place name program entries).Pairwise fun first second => first.1 < second.1 := by
  induction entries with
  | nil => simp [place]
  | cons first rest hypothesis =>
      rw [List.pairwise_cons] at sorted
      unfold place
      split
      · rename_i before
        refine List.pairwise_cons.2 ⟨fun entry inside => ?_, List.pairwise_cons.2 sorted⟩
        rcases List.mem_cons.1 inside with same | inside
        · simpa [same] using before
        · exact String.lt_trans before (sorted.1 entry inside)
      · split
        · rename_i same
          exact List.pairwise_cons.2 ⟨fun entry inside => by
            simpa [same] using sorted.1 entry inside, sorted.2⟩
        · rename_i notBefore different
          refine List.pairwise_cons.2 ⟨fun entry inside => ?_, hypothesis sorted.2⟩
          rcases mem_place inside with same | old
          · subst same
            have above : first.1 ≤ name := String.not_lt.1 notBefore
            exact Classical.byContradiction fun notAbove =>
              different (String.le_antisymm (String.not_lt.1 notAbove) above)
          · exact sorted.1 entry old

/-- A registry without programs. -/
def empty : Registry := ⟨[], .nil⟩

/-- Register a program under the lower case of a name. -/
def insert (registry : Registry) (name : String) (program : Program) : Registry where
  entries := place (lowerCase name) program registry.entries
  sorted := place_sorted _ _ registry.sorted

/-- The registry of listed programs; of names that differ only in case the last one counts. -/
def ofList (programs : List (String × Program)) : Registry :=
  programs.foldl (fun registry named => registry.insert named.1 named.2) empty

/-- The names in order. -/
def names (registry : Registry) : List String := registry.entries.map (·.1)

/-- The program with a name in any case of letters. -/
def find? (registry : Registry) (name : String) : Option Program :=
  (registry.entries.find? (·.1 == lowerCase name)).map (·.2)

/-- The programs every shell has. -/
def standard : Registry :=
  ofList [("pingpong", Program.pingPong), ("echo", Program.echo), ("sleep", Program.sleep)]

end Registry

namespace Ending

/-- The status that a program leaves. One that raises a failure or leaves at once has status one. -/
def status? : Ending → Option Int
  | .returned status? => status?
  | .raised _ => some 1
  | .left => some 1

/-- A failure is recorded on the thread of the program, unless it is meant for the whole shell. -/
def records (name : String) : Ending → List Event
  | .raised failure => failure.records (.program name) (.programFailed name failure)
  | _ => []

end Ending

/-- A program that runs on a thread of its own. -/
def Course.job (name : String) (course : Course) : Job where
  gate? := course.gate?
  events := course.deeds.map Event.deed ++ course.ending.records name
  join := .ok course.ending.status?

/-- Start programs of a registry. -/
def Registry.launcher (registry : Registry) : Launcher := fun name arguments =>
  match registry.find? name with
  | none => .error (.unknownProgram name registry.names)
  | some program => .ok ((program arguments).job name)

namespace Registry

variable {registry : Registry} {name : String} {arguments : List String} {program : Program}

theorem reply_of_find?_eq_some (found : registry.find? name = some program) :
    registry.launcher.reply (name :: arguments) =
      .ok (.started ((program arguments).job name)) := by
  simp [Launcher.reply, launcher, found]

theorem reply_of_find?_eq_none (missing : registry.find? name = none) :
    registry.launcher.reply (name :: arguments) =
      .ok (.refused (.startRefused name (.unknownProgram name registry.names))) := by
  simp [Launcher.reply, launcher, missing, Failure.family?]

/-- Only a name that is not there keeps a program from starting. -/
theorem eq_unknownProgram_of_launcher {failure : Failure}
    (failed : registry.launcher name arguments = .error failure) :
    failure = .unknownProgram name registry.names := by
  unfold launcher at failed
  split at failed
  · cases failed
    rfl
  · cases failed

theorem exists_program_of_launcher {job : Job}
    (started : registry.launcher name arguments = .ok job) :
    ∃ program, registry.find? name = some program ∧ job = (program arguments).job name := by
  unfold launcher at started
  split at started
  · cases started
  · rename_i program found
    cases started
    exact ⟨program, found, rfl⟩

end Registry

end CommandShell
