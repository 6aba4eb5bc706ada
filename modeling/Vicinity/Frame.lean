import Vicinity.Column
import Vicinity.Object

/-!
# Frames

A `Frame` is a table of named columns. Objects are read off the rows of a frame
(`ObjectRecord.ofFrame`).
-/

namespace Vicinity

/-- A table of columns of one height. -/
structure Frame where
  columns : List Column

/-- Why no objects are read off a frame. -/
inductive FrameFault where
  /-- There is no column of that name. -/
  | missingColumn (name : String)
  /-- A label cell holds no labels. -/
  | badCell (f : ItemFault)
deriving DecidableEq

namespace Frame

/-- The number of rows. -/
def height (f : Frame) : Nat := ((f.columns.map fun c => c.values.length).max?).getD 0

/-- The rows, from the top. -/
def rows (f : Frame) : List (List Value) :=
  (List.range f.height).map fun i => f.columns.map fun c => c.values[i]?.getD .null

/-- The cells of a column. -/
def column (f : Frame) (name : String) : Except FrameFault (List Value) :=
  match f.columns.find? fun c => c.name == name with
  | some c => .ok c.values
  | none => .error (.missingColumn name)

end Frame

/-! ## Objects in a frame -/

/-- The objects of three columns, row by row. -/
def ObjectRecord.ofColumns : (ids cells externalIds : List Value) →
    Except FrameFault (List ObjectRecord)
  | id :: ids, cell :: cells, externalId :: externalIds =>
    match ObjectRecord.ofCells id cell externalId with
    | .error f => .error (.badCell f)
    | .ok r =>
      match ObjectRecord.ofColumns ids cells externalIds with
      | .error f => .error f
      | .ok rs => .ok (r :: rs)
  | _, _, _ => .ok []

/-- The columns that hold objects. -/
structure ObjectColumns where
  id : String := "id"
  labels : String := "labels"
  externalId : Option String := none

/-- The objects in the rows of a frame. -/
def ObjectRecord.ofFrame (f : Frame) (columns : ObjectColumns) :
    Except FrameFault (List ObjectRecord) := do
  let ids ← f.column columns.id
  let cells ← f.column columns.labels
  let externalIds ←
    match columns.externalId with
    | some name => f.column name
    | none => pure (ids.map fun _ => .null)
  ObjectRecord.ofColumns ids cells externalIds

end Vicinity
