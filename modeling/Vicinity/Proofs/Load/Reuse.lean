import Vicinity.NeighborReader

/-!
# Readers that are used again

A reader is called any number of times, with lines or with files. A call that comes to reading
lines starts anew, so it is answered as by a fresh reader and leaves the state that a fresh reader
would be in (`answer_of_begins`); any other call is answered as by a fresh reader and leaves the
state of the calls before (`answer_of_not_begins`). So nothing of a call is left in the answers to
later ones, and the last call that came to reading lines is all that the state remembers
(`answers_eq`).
-/

namespace Vicinity

namespace NeighborReader

/-! ## Calls -/

/-- What a reader is asked to load. Between two calls files may change. -/
inductive Call where
  | lines (lines : List String)
  | file (fs : FileSystem) (path : String)

/-- Load what a call asks for. -/
def answer [Platform] (r : NeighborReader) : Call → Outcome
  | .lines lines => r.loadLines lines
  | .file fs path => r.loadFile fs path

/-- Answer calls one after the other. -/
def answers [Platform] (r : NeighborReader) :
    List Call → NeighborReader × List (Told (Except LoadFailure NeighborStore))
  | [] => (r, [])
  | c :: rest =>
    (((r.answer c).1.answers rest).1, (r.answer c).2 :: ((r.answer c).1.answers rest).2)

/-- A reader with the same labels and settings that has not loaded anything. -/
def fresh (r : NeighborReader) : NeighborReader := { index := r.index, settings := r.settings }

/-- Whether a call comes to reading lines : a file must be opened and its encoding known. -/
def begins [Platform] (r : NeighborReader) : Call → Bool
  | .lines _ => true
  | .file fs path => (TextStream.openFile fs path r.settings.encoding).isOk

/-! ## One call -/

variable (r : NeighborReader)

theorem loadLines_fresh (lines : List String) : r.fresh.loadLines lines = r.loadLines lines := by
  simp only [loadLines, fresh]

theorem loadStream_fresh (path : String) (s : TextStream) :
    r.fresh.loadStream path s = r.loadStream path s := by
  simp only [loadStream, loadLines_fresh]
  rfl

/-- A call that comes to reading lines is answered as by a fresh reader. -/
theorem answer_of_begins [Platform] {c : Call} (h : r.begins c = true) :
    r.answer c = r.fresh.answer c := by
  cases c with
  | lines lines => exact (r.loadLines_fresh lines).symm
  | file fs path =>
    rw [begins] at h
    cases hopen : TextStream.openFile fs path r.settings.encoding with
    | error f =>
      rw [hopen] at h
      cases h
    | ok s =>
      have hopen' : TextStream.openFile fs path r.fresh.settings.encoding = .ok s := hopen
      simp only [answer, loadFile, hopen, hopen', loadStream_fresh]

/-- A call that does not come to reading lines is answered so too, and leaves the state alone. -/
theorem answer_of_not_begins [Platform] {c : Call} (h : r.begins c = false) :
    (r.answer c).1 = r ∧ (r.answer c).2 = (r.fresh.answer c).2 := by
  cases c with
  | lines lines => cases h
  | file fs path =>
    rw [begins] at h
    cases hopen : TextStream.openFile fs path r.settings.encoding with
    | ok s =>
      rw [hopen] at h
      cases h
    | error f =>
      have hopen' : TextStream.openFile fs path r.fresh.settings.encoding = .error f := hopen
      simp only [answer, loadFile, hopen, hopen', and_self]

theorem fresh_loadLines (lines : List String) : (r.loadLines lines).1.fresh = r.fresh := by
  rw [loadLines]
  split <;> rfl

theorem fresh_loadStream (path : String) (s : TextStream) :
    (r.loadStream path s).1.fresh = r.fresh := by
  rcases hs : s.lines with ⟨lines, _ | f⟩
  · have hfresh := r.fresh_loadLines lines
    rcases hl : r.loadLines lines with ⟨r', events, f | store⟩
    all_goals
      rw [hl] at hfresh
      simpa only [loadStream, hs, hl] using hfresh
  · cases hl : Load.lines r.index r.settings.options {} lines
    all_goals
      simp only [loadStream, hs, hl]
      rfl

/-- A call changes neither the labels nor the settings. -/
theorem fresh_answer [Platform] (c : Call) : (r.answer c).1.fresh = r.fresh := by
  cases c with
  | lines lines => exact r.fresh_loadLines lines
  | file fs path =>
    rw [answer, loadFile]
    cases TextStream.openFile fs path r.settings.encoding with
    | error f => rfl
    | ok s => exact r.fresh_loadStream path s

theorem begins_fresh [Platform] : r.fresh.begins = r.begins := by
  funext c
  cases c <;> rfl

/-! ## Any number of calls -/

/-- Every call is answered, in what it gives and in what it tells, as by a fresh reader. After all
of them the reader is as a fresh one after the last call that came to reading lines, or as it was
if there was none. -/
theorem answers_eq [Platform] (calls : List Call) :
    (r.answers calls).2 = (calls.map fun c => (r.fresh.answer c).2) ∧
      (r.answers calls).1 =
        (calls.filter r.begins).getLast?.elim r fun c => (r.fresh.answer c).1 := by
  induction calls generalizing r with
  | nil => exact ⟨rfl, rfl⟩
  | cons c rest ih =>
    obtain ⟨htold, hstate⟩ := ih (r.answer c).1
    have hbegins : (r.answer c).1.begins = r.begins := by
      rw [← begins_fresh, fresh_answer, begins_fresh]
    rw [fresh_answer] at htold hstate
    rw [hbegins] at hstate
    rw [answers, List.map_cons, htold, hstate, List.filter_cons]
    cases hc : r.begins c with
    | true =>
      rw [← answer_of_begins r hc, if_pos rfl, List.getLast?_cons]
      refine ⟨rfl, ?_⟩
      cases (rest.filter r.begins).getLast? with
      | none => exact congrArg Prod.fst (answer_of_begins r hc)
      | some c' => rfl
    | false =>
      obtain ⟨hsame, htoldc⟩ := answer_of_not_begins r hc
      rw [hsame, htoldc]
      exact ⟨rfl, rfl⟩

end NeighborReader

end Vicinity
