import Vicinity.NeighborReader

/-!
# What a load asks of an index

A load asks an index for the identifiers of labels and for nothing else. So a reader may be given
another index that resolves every label alike, whatever objects and collisions it was built of :
each line then says the same (`LineReading.ofLine_of_resolve?_eq`), and each load comes to the
same outcome and the same state (`NeighborReader.loadLines_withIndex`,
`NeighborReader.loadFile_withIndex`).
-/

namespace Vicinity

variable {index index' : LabelIndex}

/-! ## Lines -/

/-- A line says what its labels are resolved to. -/
theorem LineReading.ofLine_of_resolve?_eq (h : index'.resolve? = index.resolve?)
    (includeSubject : Bool) (line : String) :
    ofLine index' includeSubject line = ofLine index includeSubject line := by
  rw [ofLine, ofLine, h]

theorem Load.lines_of_resolve?_eq (h : index'.resolve? = index.resolve?) (options : LoadOptions)
    (l : Load) (lines : List String) :
    Load.lines index' options l lines = Load.lines index options l lines := by
  have hline : Load.line index' options = Load.line index options := by
    funext l line
    rw [Load.line, Load.line, LineReading.ofLine_of_resolve?_eq h]
  rw [Load.lines, Load.lines, hline]

/-! ## Readers -/

namespace NeighborReader

/-- The reader with another index. -/
def withIndex (r : NeighborReader) (index' : LabelIndex) : NeighborReader :=
  { r with index := index' }

variable {r : NeighborReader}

theorem loadLines_withIndex (h : index'.resolve? = r.index.resolve?) (lines : List String) :
    (r.withIndex index').loadLines lines =
      ((r.loadLines lines).1.withIndex index', (r.loadLines lines).2) := by
  have hlines : Load.lines (r.withIndex index').index (r.withIndex index').settings.options {}
      lines = _ := Load.lines_of_resolve?_eq h r.settings.options {} lines
  rw [loadLines, loadLines, hlines]
  cases Load.lines r.index r.settings.options {} lines <;> rfl

theorem loadStream_withIndex (h : index'.resolve? = r.index.resolve?) (path : String)
    (s : TextStream) :
    (r.withIndex index').loadStream path s =
      ((r.loadStream path s).1.withIndex index', (r.loadStream path s).2) := by
  have hlines (lines : List String) : Load.lines (r.withIndex index').index
      (r.withIndex index').settings.options {} lines = _ :=
    Load.lines_of_resolve?_eq h r.settings.options {} lines
  rw [loadStream, loadStream]
  split
  · rw [loadLines_withIndex h]
    rcases r.loadLines _ with ⟨r', events, f | store⟩ <;> rfl
  · rw [hlines]
    cases Load.lines r.index r.settings.options {} _ <;> rfl

/-- A reader that is given an index that resolves every label alike loads a file alike. -/
theorem loadFile_withIndex [Platform] (h : index'.resolve? = r.index.resolve?) (fs : FileSystem)
    (path : String) :
    (r.withIndex index').loadFile fs path =
      ((r.loadFile fs path).1.withIndex index', (r.loadFile fs path).2) := by
  have hsettings : (r.withIndex index').settings = r.settings := rfl
  rw [loadFile, loadFile, hsettings]
  cases TextStream.openFile fs path r.settings.encoding with
  | error f => rfl
  | ok s =>
    simp only [loadStream_withIndex h]

/-- Indexes that resolve every label alike load a file to the same result, tell the same and
remember the same. -/
theorem loadFile_of_resolve?_eq [Platform] (h : index'.resolve? = index.resolve?)
    (settings : ReaderSettings) (fs : FileSystem) (path : String) :
    let outcome := loadFile { index, settings } fs path
    let outcome' := loadFile { index := index', settings } fs path
    outcome'.2 = outcome.2 ∧ outcome'.1.last = outcome.1.last := by
  have hload : loadFile { index := index', settings } fs path = _ :=
    loadFile_withIndex (r := { index, settings }) h fs path
  rw [hload]
  exact ⟨rfl, rfl⟩

end NeighborReader

end Vicinity
