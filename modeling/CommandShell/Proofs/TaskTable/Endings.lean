import CommandShell.Proofs.TaskTable.Replacement
import CommandShell.Registry

/-!
Programs that end in any way. `Registry.concludes_of_chronicled` says that a program that returns,
raises a failure or leaves at once is carried through all the same, with what is recorded of it, and
that its ending matters to no other task.
-/

namespace CommandShell

namespace Ending

/-- The failure that is recorded of a program: one that is not meant for the whole shell. -/
def exception? : Ending → Option Failure
  | .raised failure => if failure.isInterruption || failure.isFatal then none else some failure
  | _ => none

theorem exception?_eq_some_iff {ending : Ending} {failure : Failure} :
    ending.exception? = some failure ↔
      ending = .raised failure ∧ failure.isInterruption = false ∧ failure.isFatal = false := by
  cases ending with
  | returned status? => simp [exception?]
  | left => simp [exception?]
  | raised other =>
      rw [raised.injEq, exception?]
      split
      · rename_i severe
        simp only [reduceCtorEq, false_iff]
        rintro ⟨rfl, interruption, fatal⟩
        simp [interruption, fatal] at severe
      · rename_i mild
        rw [Bool.not_eq_true, Bool.or_eq_false_iff] at mild
        simp only [Option.some.injEq, iff_self_and]
        rintro rfl
        exact mild

theorem records_eq (name : String) (ending : Ending) :
    ending.records name =
      ending.exception?.toList.map fun failure =>
        .log (.program name) (.programFailed name failure) := by
  cases ending with
  | returned status? => rfl
  | left => rfl
  | raised failure =>
      by_cases severe : failure.isInterruption || failure.isFatal
      · simp [records, Failure.records, exception?, severe]
      · simp [records, Failure.records, exception?, severe]

theorem status?_of_ne_returned {ending : Ending} (other : ∀ status?, ending ≠ .returned status?) :
    ending.status? = some 1 := by
  cases ending with
  | returned status? => exact absurd rfl (other status?)
  | raised failure => rfl
  | left => rfl

end Ending

namespace Registry

section Insert

theorem find?_place (name key : String) (program : Program) (entries : List (String × Program)) :
    (place name program entries).find? (·.1 == key) =
      if name = key then some (name, program) else entries.find? (·.1 == key) := by
  induction entries with
  | nil =>
      by_cases same : name = key
      · simp [place, same]
      · simp [place, same]
  | cons entry rest ih =>
      unfold place
      split
      · by_cases same : name = key
        · simp [same]
        · simp [same]
      · split
        · rename_i same
          by_cases same' : name = key
          · simp [same']
          · have other : entry.1 ≠ key := same ▸ same'
            simp [same', other]
        · rename_i different
          by_cases same : name = key
          · have other : entry.1 ≠ key := fun equal => different (same.trans equal.symm)
            rw [List.find?_cons_of_neg (by simpa using other), ih]
            simp [same]
          · rw [List.find?_cons, List.find?_cons, ih]
            simp [same]

theorem names_place {name : String} {program : Program} {entries : List (String × Program)}
    (sorted : entries.Pairwise fun first second => first.1 < second.1)
    (known : name ∈ entries.map (·.1)) :
    (place name program entries).map (·.1) = entries.map (·.1) := by
  induction entries with
  | nil => exact absurd known List.not_mem_nil
  | cons entry rest ih =>
      rw [List.pairwise_cons] at sorted
      rw [List.map_cons, List.mem_cons] at known
      unfold place
      split
      · rename_i before
        rcases known with same | inside
        · exact absurd (same ▸ before) (String.lt_irrefl _)
        · obtain ⟨other, later, rfl⟩ := List.mem_map.1 inside
          exact absurd (sorted.1 other later) (String.lt_asymm before)
      · split
        · rename_i same
          simp [same]
        · rename_i different
          rw [List.map_cons, List.map_cons, ih sorted.2 (known.resolve_left different)]

variable {registry : Registry} {name : String} {program : Program}

theorem find?_insert (registry : Registry) (name other : String) (program : Program) :
    (registry.insert name program).find? other =
      if lowerCase name = lowerCase other then some program else registry.find? other := by
  rw [find?, insert, find?_place]
  split
  · rfl
  · rfl

theorem names_insert (found : registry.find? name = some program) (program' : Program) :
    (registry.insert name program').names = registry.names := by
  obtain ⟨entry, found, _⟩ := Option.map_eq_some_iff.1 found
  have same : entry.1 = lowerCase name := by simpa using List.find?_some found
  have known : lowerCase name ∈ registry.entries.map (·.1) :=
    same ▸ List.mem_map_of_mem (List.mem_of_find?_eq_some found)
  exact names_place registry.sorted known

/-- Words that name a program. -/
def Names (name : String) (words : List String) : Prop :=
  ∃ program arguments, words = program :: arguments ∧ lowerCase name = lowerCase program

/-- Another program in the place of a program changes only the jobs that its name starts. -/
theorem replaces_insert (found : registry.find? name = some program) (program' : Program) :
    TaskTable.Replaces (Names name) registry.launcher (registry.insert name program').launcher := by
  constructor
  · intro words unaffected
    cases words with
    | nil => rfl
    | cons other arguments =>
        have different : lowerCase name ≠ lowerCase other := fun same =>
          unaffected ⟨other, arguments, rfl, same⟩
        have looked : (registry.insert name program').find? other = registry.find? other := by
          rw [find?_insert, if_neg different]
        simp only [Launcher.reply, launcher, looked, names_insert found program']
  · rintro _ ⟨other, arguments, rfl, same⟩
    have looked : registry.find? other = some program := by
      rw [find?, ← same]
      exact found
    have looked' : (registry.insert name program').find? other = some program' := by
      rw [find?_insert, if_pos same]
    exact ⟨(program arguments).job other, (program' arguments).job other, by
      simp [Launcher.reply, launcher, looked], by simp [Launcher.reply, launcher, looked']⟩

end Insert

open TaskTable (Chronicled Completes Parallel)

/-- How a program of a registry is carried through that got a number. -/
structure Concludes (registry : Registry) (name : String) (arguments : List String) (course : Course)
    (chronicle : Chronicle) (table : TaskTable) (task : TaskId) : Prop where
  completes :
    Completes registry.launcher chronicle table task (name :: arguments) (course.job name)
  /-- The course is what the program does, then the record of the failure that it raised, if there is
  one to record, and then the record of its status. -/
  course_eq : TaskTable.Job.course task (course.job name) = course.deeds.map .deed ++
    (course.ending.exception?.toList.map fun failure =>
      .log (.program name) (.programFailed name failure)) ++
    [.log (.watcher task) (.taskEnded task course.ending.status?)]
  exception : ∀ failure, course.ending.exception? = some failure ↔
    course.ending = .raised failure ∧ failure.isInterruption = false ∧ failure.isFatal = false
  /-- The status is the one that the program returned, and one if it did not return. -/
  returned : ∀ status?, course.ending = .returned status? → course.ending.status? = status?
  otherwise : (∀ status?, course.ending ≠ .returned status?) → course.ending.status? = some 1
  /-- Started and awaited without the table it has the same status and does the same, but gets no
  number and no place in the queue. -/
  alone : TaskTable.startAlone registry.launcher (name :: arguments) table =
    ⟨.ok course.ending.status?, table, (course.job name).events⟩
  /-- A request that runs the program to its end does all of its course, and adds its number. -/
  dispatched : course.gate? = none →
    TaskTable.dispatch registry.launcher (name :: arguments) table =
      ⟨.ok (some table.nextTask),
        (table.accept (name :: arguments) (course.job name)).finish table.nextTask,
        TaskTable.Job.course table.nextTask (course.job name) ++
          [.log .main (.taskStarted table.nextTask (name :: arguments))]⟩
  /-- Requests and gates lead on to tables that come about so. -/
  requests : (∀ words, ∃ more,
      Chronicled registry.launcher (chronicle ++ more)
        (TaskTable.dispatch registry.launcher words table).state) ∧
    ∀ gate, ∃ more,
      Chronicled registry.launcher (chronicle ++ more) (TaskTable.release gate table).state
  /-- Whatever program is put in its place, the same can happen to the table and to every task that
  has another program. -/
  apart : ∀ program, ∃ chronicle' table',
    Chronicled (registry.insert name program).launcher chronicle' table' ∧
      Parallel (Names name) chronicle chronicle' ∧ table'.accepted = table.accepted ∧
      table'.outstanding = table.outstanding ∧ table'.completed = table.completed

/-- A program can end in any way. However it ends, once it got a number its number joins the queue
once, after all that it did, and waits hand it back. -/
theorem concludes_of_chronicled {registry : Registry} {name : String} {program : Program}
    (found : registry.find? name = some program) {chronicle : Chronicle} {table : TaskTable}
    (chronicled : Chronicled registry.launcher chronicle table) {task : TaskId}
    {arguments : List String} (accepted : (task, name :: arguments) ∈ chronicle.past.accepted) :
    Concludes registry name arguments (program arguments) chronicle table task := by
  have launched : registry.launcher name arguments = .ok ((program arguments).job name) := by
    simp [launcher, found]
  have replied : registry.launcher.reply (name :: arguments) =
      .ok (.started ((program arguments).job name)) := reply_of_find?_eq_some found
  constructor
  case completes =>
    obtain ⟨job, started, completes⟩ := TaskTable.completes_of_chronicled chronicled accepted
    rw [replied] at started
    cases started
    exact completes
  case course_eq => rw [TaskTable.Job.course, Course.job, Ending.records_eq]; rfl
  case exception => exact fun _ => Ending.exception?_eq_some_iff
  case returned => exact fun _ ending => by rw [ending, Ending.status?]
  case otherwise => exact Ending.status?_of_ne_returned
  case alone => simp [TaskTable.startAlone, launched, Course.job]
  case dispatched => exact fun free => TaskTable.dispatch_started table replied free
  case requests => exact ⟨chronicled.dispatch, chronicled.release⟩
  case apart =>
    intro program'
    obtain ⟨chronicle', table', chronicled', parallel⟩ :=
      TaskTable.exists_parallel (replaces_insert found program') chronicled
    exact ⟨chronicle', table', chronicled', parallel,
      parallel.table_eq chronicled.reached.accounted chronicled'.reached.accounted⟩

/-- Programs that raise a failure, leave at once, and return no status. -/
def restless : Registry :=
  ofList
    [("boom", fun arguments =>
      .free (arguments.map .write) (.raised (.foreign "ValueError" "bad"))),
    ("Bye", fun _ => .free [.write "bye"] .left),
    ("still", fun _ => .free [] (.returned none))]

theorem restless_boom : restless.find? "Boom" =
    some fun arguments => .free (arguments.map .write) (.raised (.foreign "ValueError" "bad")) := by
  rfl

theorem restless_bye : restless.find? "bye" = some fun _ => .free [.write "bye"] .left := by
  rfl

/-- A failure and an early end beside each other. The one that starts first ends last. -/
theorem concludes_restless :
    let boom : Course := .free [.write "x", .write ""] (.raised (.foreign "ValueError" "bad"))
    let bye : Course := .free [.write "bye"] .left
    let chronicle : Chronicle :=
      [.moved (.accepted 1 ["Boom", "x", ""]), .did 1 (.deed (.write "x")),
        .moved (.accepted 2 ["bye"]), .did 2 (.deed (.write "bye")), .did 1 (.deed (.write "")),
        .did 2 (.log (.watcher 2) (.taskEnded 2 (some 1))), .moved (.ended 2),
        .did 1 (.log (.program "Boom") (.programFailed "Boom" (.foreign "ValueError" "bad")))]
    let table : TaskTable := ⟨2, [(1, ["Boom", "x", ""]), (2, ["bye"])], [2], [(1, boom.job "Boom")]⟩
    restless.find? "Boom" = some (fun arguments =>
        .free (arguments.map .write) (.raised (.foreign "ValueError" "bad"))) ∧
      restless.find? "bye" = some (fun _ => bye) ∧
      Chronicled restless.launcher chronicle table ∧
      chronicle.past.accepted = [(1, ["Boom", "x", ""]), (2, ["bye"])] ∧
      Concludes restless "Boom" ["x", ""] boom chronicle table 1 ∧
      Concludes restless "bye" [] bye chronicle table 2 := by
  intro boom bye chronicle table
  let started : TaskTable := ⟨1, [(1, ["Boom", "x", ""])], [], [(1, boom.job "Boom")]⟩
  let both : TaskTable := ⟨2, [(1, ["Boom", "x", ""]), (2, ["bye"])], [],
    [(1, boom.job "Boom"), (2, bye.job "bye")]⟩
  have one : Chronicled restless.launcher [.moved (.accepted 1 ["Boom", "x", ""])] started :=
    Chronicled.empty.accepted (TaskTable.enroll_eq_some_iff.2 ⟨_, rfl, rfl, rfl, rfl⟩)
  have two : Chronicled restless.launcher (chronicle.take 2) started := one.did (.head _) ⟨_, rfl⟩
  have three : Chronicled restless.launcher (chronicle.take 3) both :=
    two.accepted (TaskTable.enroll_eq_some_iff.2 ⟨_, rfl, rfl, rfl, rfl⟩)
  have four : Chronicled restless.launcher (chronicle.take 4) both :=
    three.did (.tail _ (.head _)) ⟨_, rfl⟩
  have five : Chronicled restless.launcher (chronicle.take 5) both := four.did (.head _) ⟨_, rfl⟩
  have six : Chronicled restless.launcher (chronicle.take 6) both :=
    five.did (.tail _ (.head _)) ⟨_, rfl⟩
  have seven : Chronicled restless.launcher (chronicle.take 7) table :=
    six.ended (.tail _ (.head _)) rfl
  have chronicled : Chronicled restless.launcher chronicle table := seven.did (.head _) ⟨_, rfl⟩
  exact ⟨restless_boom, restless_bye, chronicled, rfl,
    concludes_of_chronicled restless_boom chronicled (.head _),
    concludes_of_chronicled restless_bye chronicled (.tail _ (.head _))⟩

end Registry

end CommandShell
