import CommandShell.Console

/-!
What a console shows of a run is put together from what it shows of the parts of the run, and the
events of which it shows nothing can be left out.
-/

namespace CommandShell.Screen

variable {console : Console} {event : Event} {events : List Event}

@[simp] theorem blank_append (screen : Screen) : blank.append screen = screen := by
  simp [append, blank]

@[simp] theorem append_blank (screen : Screen) : screen.append blank = screen := by
  simp [append, blank]

theorem append_assoc (first second third : Screen) :
    (first.append second).append third = first.append (second.append third) := by
  simp [append, String.append_assoc]

theorem ofEvents_cons (console : Console) (event : Event) (events : List Event) :
    ofEvents console (event :: events) =
      (ofEvent console event).append (ofEvents console events) := rfl

theorem ofEvents_append (console : Console) (first second : List Event) :
    ofEvents console (first ++ second) =
      (ofEvents console first).append (ofEvents console second) := by
  induction first with
  | nil => exact (blank_append _).symm
  | cons event rest ih => rw [List.cons_append, ofEvents_cons, ofEvents_cons, ih, append_assoc]

/-- A console shows nothing of an event. -/
def Silent (console : Console) (event : Event) : Prop := ofEvent console event = blank

/-- A record without a failure is for debugging, and shown only to those who ask for it. -/
theorem silent_log {thread : Thread} {notice : Notice} (quiet : console.threshold = .warning)
    (fine : notice.failure? = none) : Silent console (.log thread notice) := by
  have below : notice.severity.rank < console.threshold.rank := by
    rw [Notice.severity, fine, quiet]
    decide
  exact if_pos below

theorem Silent.ofEvents_cons (silent : Silent console event) (events : List Event) :
    ofEvents console (event :: events) = ofEvents console events := by
  rw [Screen.ofEvents_cons, silent, blank_append]

theorem ofEvents_of_silent (silent : ∀ event ∈ events, Silent console event) :
    ofEvents console events = blank := by
  induction events with
  | nil => rfl
  | cons event rest ih =>
      have others := ih fun other inside => silent other (List.mem_cons_of_mem _ inside)
      rw [(silent event List.mem_cons_self).ofEvents_cons, others]

end CommandShell.Screen
