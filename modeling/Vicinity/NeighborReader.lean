import Vicinity.Load

/-!
# Reading neighbor files

A `NeighborReader` loads neighbors against one index of labels, any number of times, and keeps
where its last load stood. A load starts anew when its first line is asked for; a file that
cannot be opened, or whose encoding is unknown, leaves the state of the load before. Failures of
reading are reported as failed loads (`LoadFailure.unreadable`), everything else as what it is.
-/

namespace Vicinity

/-- The settings of a reader, as they were given. -/
structure ReaderSettings where
  encoding : Value := .text "utf-8"
  includeSubject : Value := .bool false
  logUnresolved : Value := .bool true

/-- What the settings mean for the loading of lines. -/
def ReaderSettings.options (s : ReaderSettings) : LoadOptions where
  includeSubject := s.includeSubject.isTruthy
  logUnresolved := s.logUnresolved.isTruthy

/-- Why a load gives no store. -/
inductive LoadFailure where
  /-- The file could not be read to its end. -/
  | unreadable (f : ReadFailure)
  /-- The text is in UTF-16 and its byte order is not told. -/
  | missingMark
  /-- The text is refused by a decoder that is not the library's own. -/
  | refused (wording : String)
  /-- The path contains the character U+0000. -/
  | pathContainsNul
  | encoding (f : EncodingFault)
  /-- The subject of a line cannot be a key. -/
  | unhashableSubject

/-- The wording of a load that failed because its file could not be read. -/
def loadFailureMessage : String := "Loading of external neighborhood failed."

/-- The failure of a load whose stream fails. -/
def LoadFailure.ofStreamFailure : StreamFailure → LoadFailure
  | .reading f => .unreadable f
  | .missingMark => .missingMark
  | .refused wording => .refused wording
  | .pathContainsNul => .pathContainsNul
  | .encoding f => .encoding f

/-- What is told of a stream that fails while a path is loaded. -/
def StreamFailure.events (path : String) : StreamFailure → List Event
  | .reading f => [.loadFailed path f]
  | _ => []

/-- A reader with the state of its last load. -/
structure NeighborReader where
  index : LabelIndex
  settings : ReaderSettings := {}
  last : Load := {}

namespace NeighborReader

/-- The reader after a load, with what was told and the outcome. -/
abbrev Outcome := NeighborReader × Told (Except LoadFailure NeighborStore)

/-- Load lines. -/
def loadLines (r : NeighborReader) (lines : List String) : Outcome :=
  match Load.lines r.index r.settings.options {} lines with
  | .error l => ({ r with last := l }, ⟨l.events, .error .unhashableSubject⟩)
  | .ok l => ({ r with last := l.finish }, ⟨l.events, .ok l.store⟩)

/-- Load the lines of a stream that was opened at a path. -/
def loadStream (r : NeighborReader) (path : String) (stream : TextStream) : Outcome :=
  match stream.lines with
  | (lines, none) =>
    match r.loadLines lines with
    | (r, ⟨events, .error f⟩) => (r, ⟨events, .error f⟩)
    | (r, ⟨events, .ok store⟩) =>
      let l := r.last
      (r, ⟨events ++ [.loadFinished l.stats.entries l.stats.linesRead l.warnings.length],
        .ok store⟩)
  | (lines, some f) =>
    match Load.lines r.index r.settings.options {} lines with
    | .error l => ({ r with last := l }, ⟨l.events, .error .unhashableSubject⟩)
    | .ok l =>
      ({ r with last := l }, ⟨l.events ++ f.events path, .error (.ofStreamFailure f)⟩)

/-- Load a file. -/
def loadFile [Platform] (r : NeighborReader) (fs : FileSystem) (path : String) : Outcome :=
  let started := Event.loadStarted path
  match TextStream.openFile fs path r.settings.encoding with
  | .error f => (r, ⟨started :: f.events path, .error (.ofStreamFailure f)⟩)
  | .ok stream =>
    let (r, told) := r.loadStream path stream
    (r, ⟨started :: told.events, told.result⟩)

end NeighborReader

end Vicinity
