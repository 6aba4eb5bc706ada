import Vicinity.Proofs.Event
import Vicinity.Proofs.Load.Reuse
import Vicinity.Proofs.Load.Step

/-!
# What is told of a load

Whether labels that are not resolved are told makes no difference to a load. A load without what
was told of it (`Load.quiet`) goes on as the load does when they are not told, line by line
(`Load.lines_quiet`). So a reader that does not tell them comes to the same store or the same
failure, in the same state, and tells everything else (`NeighborReader.loadFile_quiet`).

A reader that tells them tells exactly the warnings that it remembers, wherever the load ends, if
the load comes to reading lines. Otherwise it tells none, but it still remembers those of the load
before (`NeighborReader.warnings_loadFile`).
-/

namespace Vicinity

namespace LoadOptions

variable (options : LoadOptions) (us : List UnresolvedLabel)

/-- The same options, but labels that are not resolved are not told. -/
def quiet : LoadOptions := { options with logUnresolved := false }

theorem told_nil : options.told [] = [] := by
  rw [told]
  split <;> rfl

theorem exists_of_mem_told {e : Event} (h : e ∈ options.told us) : ∃ u ∈ us, e = .unresolved u :=
  Event.exists_of_mem_ite h

theorem isWarning_told : ∀ e ∈ options.told us, e.IsWarning := by
  intro e he
  obtain ⟨u, -, rfl⟩ := options.exists_of_mem_told us he
  rfl

@[simp] theorem warnings_told : Event.warnings (options.told us) = options.told us :=
  Event.warnings_of_isWarning (options.isWarning_told us)

@[simp] theorem others_told : Event.others (options.told us) = [] :=
  Event.others_of_isWarning (options.isWarning_told us)

end LoadOptions

/-! ## Lines -/

namespace Load

variable {index : LabelIndex} {options : LoadOptions}

/-- A load without what was told of it. -/
def quiet (l : Load) : Load := { l with events := [] }

/-- What the loading of lines ends with, without what was told. -/
def quietly : Except Load Load → Except Load Load
  | .ok l => .ok l.quiet
  | .error l => .error l.quiet

/-- All there is to say about adding a reading to a load. -/
theorem read_eq (l : Load) (r : LineReading) :
    l.nextLine.read options r =
      if ∀ a ∈ r.append?, a.1.isHashable then .ok (l.after options r)
      else .error (l.refused options r) := by
  split
  · rename_i h
    exact read_of_isHashable options l h
  · rename_i h
    obtain ⟨a, ha, hkey⟩ : ∃ a, r.append? = some a ∧ a.1.isHashable = false := by simpa using h
    exact read_of_not_isHashable options l ha hkey

theorem read_quiet (l : Load) (r : LineReading) :
    l.quiet.nextLine.read options.quiet r = quietly (l.nextLine.read options r) := by
  rw [read_eq, read_eq]
  split <;> rfl

theorem line_quiet (l : Load) (line : String) :
    Load.line index options.quiet l.quiet line = quietly (Load.line index options l line) :=
  read_quiet l (LineReading.ofLine index options.includeSubject line)

/-- Adding lines and not telling of it commute. -/
theorem lines_quiet (l : Load) (lines : List String) :
    Load.lines index options.quiet l.quiet lines = quietly (Load.lines index options l lines) := by
  induction lines generalizing l with
  | nil => rfl
  | cons line rest ih =>
    rw [Load.lines, Load.lines, List.foldlM_cons, List.foldlM_cons, line_quiet]
    cases Load.line index options l line with
    | error l' => rfl
    | ok l' => exact ih l'

/-- What was told of the load are its warnings, if they are told at all. -/
def TellsWarnings (options : LoadOptions) (l : Load) : Prop := l.events = options.told l.warnings

theorem tellsWarnings_empty : TellsWarnings options {} := options.told_nil.symm

theorem TellsWarnings.after {l : Load} (h : l.TellsWarnings options) (r : LineReading) :
    (l.after options r).TellsWarnings options := by
  have hevents : l.nextLine.events = options.told l.nextLine.warnings := h
  rw [TellsWarnings, Load.after, withWarnings, hevents, ← LoadOptions.told_append]

/-- A line preserves it, also the line that ends a load. -/
theorem TellsWarnings.read {l l' : Load} {r : LineReading} (h : l.TellsWarnings options)
    (hread : l.nextLine.read options r = .ok l' ∨ l.nextLine.read options r = .error l') :
    l'.TellsWarnings options := by
  rw [read_eq] at hread
  split at hread
  · obtain hread | hread := hread <;> cases hread
    exact h.after r
  · obtain hread | hread := hread <;> cases hread
    exact h.after r

theorem TellsWarnings.lines {l l' : Load} {lines : List String} (h : l.TellsWarnings options)
    (hlines : Load.lines index options l lines = .ok l' ∨
      Load.lines index options l lines = .error l') : l'.TellsWarnings options := by
  induction lines generalizing l with
  | nil =>
    obtain hlines | hlines := hlines <;> cases hlines
    exact h
  | cons line rest ih =>
    rw [Load.lines, List.foldlM_cons] at hlines
    cases hline : Load.line index options l line with
    | error l₁ =>
      rw [hline] at hlines
      obtain hlines | hlines := hlines <;> cases hlines
      exact h.read (.inr hline)
    | ok l₁ =>
      rw [hline] at hlines
      exact ih (h.read (.inl hline)) hlines

/-- Wherever the loading of lines ends, what was told of it are its warnings. -/
theorem events_of_lines {l : Load} {lines : List String}
    (h : Load.lines index options {} lines = .ok l ∨
      Load.lines index options {} lines = .error l) : l.events = options.told l.warnings :=
  tellsWarnings_empty.lines h

end Load

/-! ## Readers -/

namespace NeighborReader

/-- The same reader, without what was told of its last load, and labels that are not resolved are
not told. -/
def quiet (r : NeighborReader) : NeighborReader :=
  { r with settings := { r.settings with logUnresolved := .null }, last := r.last.quiet }

/-- An outcome without what was told of labels that are not resolved. -/
def quietly (outcome : Outcome) : Outcome := (outcome.1.quiet, outcome.2.quiet)

section

variable (r : NeighborReader)

theorem lines_quiet (lines : List String) :
    Load.lines r.quiet.index r.quiet.settings.options {} lines =
      Load.quietly (Load.lines r.index r.settings.options {} lines) := by
  have hempty : Load.quiet {} = {} := rfl
  have h : Load.lines r.index r.settings.options.quiet (Load.quiet {}) lines = _ :=
    Load.lines_quiet {} lines
  rw [hempty] at h
  exact h

end

variable {r : NeighborReader} {path : String} {s : TextStream} {lines : List String} {l : Load}

/-! ### Streams -/

theorem loadStream_of_error {f : Option StreamFailure} (hs : s.lines = (lines, f))
    (hl : Load.lines r.index r.settings.options {} lines = .error l) :
    r.loadStream path s = ({ r with last := l }, ⟨l.events, .error .unhashableSubject⟩) := by
  cases f <;> simp [loadStream, loadLines, hs, hl]

theorem loadStream_of_failed {f : StreamFailure} (hs : s.lines = (lines, some f))
    (hl : Load.lines r.index r.settings.options {} lines = .ok l) :
    r.loadStream path s =
      ({ r with last := l }, ⟨l.events ++ f.events path, .error (.ofStreamFailure f)⟩) := by
  simp [loadStream, hs, hl]

theorem loadStream_of_ended (hs : s.lines = (lines, none))
    (hl : Load.lines r.index r.settings.options {} lines = .ok l) :
    let finished := l.finish
    r.loadStream path s =
      ({ r with last := finished },
        ⟨l.events ++ [.loadFinished finished.stats.entries finished.stats.linesRead
          finished.warnings.length], .ok l.store⟩) := by
  simp [loadStream, loadLines, hs, hl]

/-- How a stream fails is no warning. -/
theorem others_events (f : StreamFailure) : Event.others (f.events path) = f.events path := by
  cases f <;> rfl

theorem warnings_events (f : StreamFailure) : Event.warnings (f.events path) = [] := by
  cases f <;> rfl

theorem loadStream_quiet : r.quiet.loadStream path s = quietly (r.loadStream path s) := by
  rcases hs : s.lines with ⟨lines, f⟩
  have hquiet := r.lines_quiet lines
  cases hl : Load.lines r.index r.settings.options {} lines with
  | error l =>
    rw [hl] at hquiet
    have hevents := Load.events_of_lines (.inr hl)
    rw [loadStream_of_error hs hl, loadStream_of_error hs hquiet, quietly, Told.quiet, hevents,
      LoadOptions.others_told]
    rfl
  | ok l =>
    rw [hl] at hquiet
    have hevents := Load.events_of_lines (.inl hl)
    cases f with
    | some f =>
      rw [loadStream_of_failed hs hl, loadStream_of_failed hs hquiet, quietly, Told.quiet,
        Event.others_append, others_events, hevents, LoadOptions.others_told]
      rfl
    | none =>
      rw [loadStream_of_ended hs hl, loadStream_of_ended hs hquiet, quietly, Told.quiet,
        Event.others_append, hevents, LoadOptions.others_told]
      rfl

theorem warnings_loadStream :
    Event.warnings (r.loadStream path s).2.events =
      r.settings.options.told (r.loadStream path s).1.last.warnings := by
  rcases hs : s.lines with ⟨lines, f⟩
  cases hl : Load.lines r.index r.settings.options {} lines with
  | error l =>
    have hevents := Load.events_of_lines (.inr hl)
    rw [loadStream_of_error hs hl, hevents, LoadOptions.warnings_told]
  | ok l =>
    have hevents := Load.events_of_lines (.inl hl)
    cases f with
    | some f =>
      rw [loadStream_of_failed hs hl, Event.warnings_append, warnings_events, List.append_nil,
        hevents, LoadOptions.warnings_told]
    | none =>
      rw [loadStream_of_ended hs hl, Event.warnings_append, hevents, LoadOptions.warnings_told]
      exact List.append_nil _

/-! ### Files -/

variable {fs : FileSystem}

/-- A reader that does not tell which labels are not resolved comes to the same outcome. -/
theorem loadFile_quiet [Platform] : r.quiet.loadFile fs path = quietly (r.loadFile fs path) := by
  cases hopen : TextStream.openFile fs path r.settings.encoding with
  | error f =>
    have hquiet : TextStream.openFile fs path r.quiet.settings.encoding = .error f := hopen
    have hothers : Event.others (.loadStarted path :: f.events path) =
        .loadStarted path :: f.events path := congrArg (List.cons _) (others_events f)
    simp only [loadFile, hopen, hquiet, quietly, Told.quiet, hothers]
  | ok s =>
    have hquiet : TextStream.openFile fs path r.quiet.settings.encoding = .ok s := hopen
    simp only [loadFile, hopen, hquiet, loadStream_quiet, quietly]
    rfl

/-- The warnings that are told are those that the reader remembers, wherever the load ends, if it
comes to reading lines. -/
theorem warnings_loadFile [Platform] :
    Event.warnings (r.loadFile fs path).2.events =
      if r.begins (.file fs path) then
        r.settings.options.told (r.loadFile fs path).1.last.warnings
      else [] := by
  rw [begins]
  cases hopen : TextStream.openFile fs path r.settings.encoding with
  | error f =>
    simp only [loadFile, hopen]
    exact warnings_events f
  | ok s =>
    simp only [loadFile, hopen]
    exact warnings_loadStream

/-- So they are if there are none from a load before. -/
theorem warnings_loadFile_of_nil [Platform] (h : r.last.warnings = []) :
    Event.warnings (r.loadFile fs path).2.events =
      r.settings.options.told (r.loadFile fs path).1.last.warnings := by
  rw [warnings_loadFile]
  split
  · rfl
  · rename_i hbegins
    have hstate : (r.loadFile fs path).1 = r :=
      (r.answer_of_not_begins (c := .file fs path) (by simpa using hbegins)).1
    rw [hstate, h, LoadOptions.told_nil]

end NeighborReader

end Vicinity
