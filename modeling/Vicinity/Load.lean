import Vicinity.LabelIndex
import Vicinity.NeighborStore
import Vicinity.Text.Tokens

/-!
# Loading lines

A line names a subject and its neighbors by labels, with single spaces between them. What a line
says is `LineReading.ofLine` : nothing, if it is blank; a subject that no object has; or an entry
of a subject with the neighbors that are known and the labels that are not.

A `Load` is where the loading of lines stands : how many there were, what came of them, which
labels were not resolved, and the store so far. `Load.line` is its step. A subject that cannot
be a key ends the load where it stands (`Load.lines`).
-/

namespace Vicinity

/-! ## What a line says -/

/-- What a line says, its labels resolved. -/
inductive LineReading where
  | blank
  | unknownSubject (label : String)
  /-- Labels that are not resolved come with their positions in the line. -/
  | entry (subject : Value) (neighbors : List Value) (unresolved : List (String × Nat))

/-- What a line says. The subject counts as its own neighbor if `includeSubject` is set. -/
def LineReading.ofLine (index : LabelIndex) (includeSubject : Bool) (line : String) :
    LineReading :=
  match Text.tokens (Text.withoutLineEnd line) with
  | [] => .blank
  | first :: rest =>
    match index.resolve? first with
    | none => .unknownSubject first
    | some subject =>
      let named := (first :: rest).zipIdx.drop (if includeSubject then 0 else 1)
      .entry subject (named.filterMap fun t => index.resolve? t.1)
        (named.filter fun t => (index.resolve? t.1).isNone)

/-! ## Counting -/

/-- What came of the lines. -/
structure LoadStats where
  linesRead : Nat := 0
  blankLines : Nat := 0
  skippedLines : Nat := 0
  resolvedNeighbors : Nat := 0
  unresolvedNeighbors : Nat := 0
  /-- The number of subjects, once all lines have been read. -/
  entries : Nat := 0
deriving DecidableEq

/-- Where the loading of lines stands. -/
structure Load where
  lineNumber : Nat := 0
  stats : LoadStats := {}
  warnings : List UnresolvedLabel := []
  store : NeighborStore := .empty
  events : List Event := []

/-- How lines are loaded. -/
structure LoadOptions where
  includeSubject : Bool := false
  /-- Whether labels that are not resolved are told. -/
  logUnresolved : Bool := true

namespace Load

/-- Remember a label that is not resolved. -/
def warn (options : LoadOptions) (l : Load) (label : String) (tokenIndex : Nat)
    (isSubject : Bool) : Load :=
  let u : UnresolvedLabel := { label, lineNumber := l.lineNumber, tokenIndex, isSubject }
  { l with
    warnings := l.warnings ++ [u]
    events := if options.logUnresolved then l.events ++ [.unresolved u] else l.events }

/-- Count one more line. -/
def nextLine (l : Load) : Load :=
  { l with
    lineNumber := l.lineNumber + 1
    stats := { l.stats with linesRead := l.stats.linesRead + 1 } }

/-- Add what a line says. The neighbors are counted before they are stored. -/
def read (options : LoadOptions) (l : Load) : LineReading → Except Load Load
  | .blank => .ok { l with stats := { l.stats with blankLines := l.stats.blankLines + 1 } }
  | .unknownSubject label =>
    let l := { l with stats := { l.stats with skippedLines := l.stats.skippedLines + 1 } }
    .ok (l.warn options label 0 true)
  | .entry subject neighbors unresolved =>
    let l := unresolved.foldl (fun l t => l.warn options t.1 t.2 false) l
    let l := { l with
      stats := { l.stats with
        resolvedNeighbors := l.stats.resolvedNeighbors + neighbors.length
        unresolvedNeighbors := l.stats.unresolvedNeighbors + unresolved.length } }
    match l.store.append? subject neighbors with
    | some store => .ok { l with store }
    | none => .error l

/-- Add a line. The error is where the load stands when the subject cannot be a key. -/
def line (index : LabelIndex) (options : LoadOptions) (l : Load) (line : String) :
    Except Load Load :=
  l.nextLine.read options (LineReading.ofLine index options.includeSubject line)

/-- Add all lines. -/
def lines (index : LabelIndex) (options : LoadOptions) (l : Load) (lines : List String) :
    Except Load Load :=
  lines.foldlM (line index options) l

/-- The load after its last line. -/
def finish (l : Load) : Load := { l with stats := { l.stats with entries := l.store.size } }

end Load

end Vicinity
