import Vicinity.Event

/-!
# Warnings

What is told falls into warnings (`Event.warnings`) and others (`Event.others`). There are two
kinds of warnings, collisions of labels and labels that are not resolved. Each comes from a part
of the library of its own.
-/

namespace Vicinity

namespace Event

/-- Whether an event is a warning. -/
def IsWarning (e : Event) : Prop := e.level = .warning

instance : DecidablePred IsWarning := fun e => inferInstanceAs (Decidable (e.level = .warning))

/-- The events that are warnings. -/
def warnings (events : List Event) : List Event := events.filter fun e => e.IsWarning

/-- The events that are none. -/
def others (events : List Event) : List Event := events.filter fun e => ¬ e.IsWarning

@[simp] theorem warnings_nil : warnings [] = [] := rfl

@[simp] theorem others_nil : others [] = [] := rfl

theorem warnings_cons (e : Event) (events : List Event) :
    warnings (e :: events) = if e.IsWarning then e :: warnings events else warnings events := by
  by_cases h : e.IsWarning <;> simp [warnings, h]

theorem others_cons (e : Event) (events : List Event) :
    others (e :: events) = if e.IsWarning then others events else e :: others events := by
  by_cases h : e.IsWarning <;> simp [others, h]

@[simp] theorem warnings_append (events more : List Event) :
    warnings (events ++ more) = warnings events ++ warnings more :=
  List.filter_append ..

@[simp] theorem others_append (events more : List Event) :
    others (events ++ more) = others events ++ others more :=
  List.filter_append ..

variable {events : List Event}

theorem warnings_of_isWarning (h : ∀ e ∈ events, e.IsWarning) : warnings events = events :=
  List.filter_eq_self.mpr fun e he => by simp [h e he]

theorem others_of_isWarning (h : ∀ e ∈ events, e.IsWarning) : others events = [] :=
  List.filter_eq_nil_iff.mpr fun e he => by simp [h e he]

/-- Where what is remembered is told or not, an event that is told is one for something that is
remembered. -/
theorem exists_of_mem_ite {α : Type} {telling : Bool} {event : α → Event} {xs : List α} {e : Event}
    (h : e ∈ if telling then xs.map event else []) : ∃ x ∈ xs, e = event x := by
  split at h
  · obtain ⟨x, hx, rfl⟩ := List.mem_map.mp h
    exact ⟨x, hx, rfl⟩
  · cases h

end Event

/-- A result and what was told on the way to it, but no warnings. -/
def Told.quiet {α : Type} (t : Told α) : Told α := { t with events := Event.others t.events }

end Vicinity
