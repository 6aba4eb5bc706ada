import Vicinity.Column.Cast

/-!
# Cells

A `Cell` is a value with the types of all its parts. The items of a list form a column of their
own, so that they have one type before the list becomes a cell; the fields of a record are cells.

`Cell.columnOf` is the column that values form. If all of them are scalars that one type can
hold, as the first that is not null says (`Cell.scalars?`), they are written as that type allows :
`true` is a one among numbers. Otherwise every value becomes a cell, the first cell that says
something gives the type of the column, later cells fill in what a record of that type leaves
open, and each cell has to be of that type (`Cell.valueAs?`).
-/

namespace Vicinity

/-- Why cells form no column. -/
inductive ColumnFault where
  /-- The cells are of several types. -/
  | mixedTypes
  /-- No type holds a whole number of that size. -/
  | integerTooLarge
deriving DecidableEq

/-- A value with the types of its parts. -/
inductive Cell where
  | null
  | scalar (type : ColumnType) (value : Value)
  | list (items : ColumnType) (values : List Value)
  | record (fields : List (String × Cell))

namespace Cell

/-! ## Types -/

mutual

/-- The type of a cell. -/
def type : Cell → ColumnType
  | null => .null
  | scalar t _ => t
  | list t _ => .list t
  | record fields => .record (fieldTypes fields)

/-- The types of fields. -/
def fieldTypes : List (String × Cell) → List (String × ColumnType)
  | [] => []
  | (name, c) :: fields => (name, type c) :: fieldTypes fields

end

/-- The number of nulls in a list. -/
def nullCount (vs : List Value) : Nat := vs.countP (· = .null)

/-- Whether a cell says nothing : null, or a list of nothing but nulls. -/
def isVoid : Cell → Bool
  | null => true
  | list _ vs => nullCount vs == vs.length
  | scalar _ _ | record _ => false

/-- Whether a cell is null. -/
def isNull : Cell → Bool
  | null => true
  | scalar _ _ | list _ _ | record _ => false

/-- The type of a column of cells : that of the first one that says something, or else of the
first one that is not null, and in both cases with what all of them fill in. -/
def columnType (cells : List Cell) : ColumnType :=
  match (cells.find? fun c => !c.isVoid).or (cells.find? fun c => !c.isNull) with
  | some c => cells.foldl (fun t c => t.fill c.type) c.type
  | none => .null

/-! ## Values -/

/-- The cell of a field. One that is not there is null. -/
def ofField (fields : List (String × Cell)) (name : String) : Cell :=
  ((fields.find? fun e => e.1 == name).map Prod.snd).getD null

mutual

/-- The value of a cell in a column of a type. Scalars are not converted, and a list is cast only
if no item gets lost. A record has no other fields than those of its type, and in a column of
records without fields every cell is one. -/
def valueAs? : ColumnType → Cell → Option Value
  | .record [], _ => some (.dict [])
  | _, null => some .null
  | .record fields, record given => (fieldsAs? given fields).map .dict
  | .list t, list s vs =>
    let cast := vs.map t.cast
    if s.isCastable t && nullCount cast == nullCount vs then some (.list cast) else none
  | .float, scalar _ (.float x) => some (.float x)
  | .boolean, scalar _ (.bool b) => some (.bool b)
  | .text, scalar _ (.text s) => some (.text s)
  | t, scalar _ (.int n) => if t.holdsInt n then some (.int n) else none
  | _, _ => none

/-- The values of fields in a column of records. -/
def fieldsAs? (given : List (String × Cell)) :
    List (String × ColumnType) → Option (List (String × Value))
  | [] => some []
  | (name, t) :: fields =>
    match valueAs? t (ofField given name), fieldsAs? given fields with
    | some v, some vs => some ((name, v) :: vs)
    | _, _ => none

end

/-! ## Columns of scalars -/

/-- The types that a column can have whose first value is a given one. -/
def typesOfScalar : Value → List ColumnType
  | .bool _ => [.boolean]
  | .int _ => [.integer, .unsigned]
  | .float _ => [.float]
  | .text _ => [.text]
  | .null | .tuple _ | .list _ | .dict _ => []

/-- A scalar in a column of a type, which may be written as another number type allows. -/
def scalarAs? (type : ColumnType) (v : Value) : Option Value :=
  match type, v with
  | _, .null => some .null
  | .boolean, .bool b => some (.bool b)
  | .float, .float x => some (.float x)
  | .float, .int n =>
    match Binary64.ofInt n with
    | .finite x => some (.float (.finite x))
    | _ => none
  | .float, .bool b => some (.float (.ofInt (if b then 1 else 0)))
  | .text, .text s => some (.text s)
  | t, .int n => if t.holdsInt n then some (.int n) else none
  | t, .bool b =>
    let n : Int := if b then 1 else 0
    if t.holdsInt n then some (.int n) else none
  | _, _ => none

/-- The column of scalars that one type holds. -/
def scalars? (vs : List Value) : Option (ColumnType × List Value) :=
  match vs.find? (· ≠ .null) with
  | none => some (.null, vs)
  | some v => (typesOfScalar v).findSome? fun t => (vs.mapM (scalarAs? t)).map fun vs => (t, vs)

/-! ## Columns -/

/-- The column of cells. -/
def column (cells : List Cell) : Except ColumnFault (ColumnType × List Value) :=
  let type := columnType cells
  match cells.mapM (valueAs? type) with
  | some values => .ok (type, values)
  | none => .error .mixedTypes

/-- The column of values, if their cells are given. -/
def columnOfCells (vs : List Value) (cells : Except ColumnFault (List Cell)) :
    Except ColumnFault (ColumnType × List Value) :=
  match scalars? vs with
  | some typed => .ok typed
  | none => cells.bind column

mutual

/-- The cell of a value. -/
def ofValue : Value → Except ColumnFault Cell
  | .null => .ok null
  | .bool b => .ok (scalar .boolean (.bool b))
  | .int n =>
    match ColumnType.ofInt? n with
    | some type => .ok (scalar type (.int n))
    | none => .error .integerTooLarge
  | .float x => .ok (scalar .float (.float x))
  | .text s => .ok (scalar .text (.text s))
  | .tuple vs | .list vs =>
    (columnOfCells vs (ofValues vs)).map fun typed => list typed.1 typed.2
  | .dict entries => (ofEntries entries).map record

/-- The cells of values. -/
def ofValues : List Value → Except ColumnFault (List Cell)
  | [] => .ok []
  | v :: rest =>
    match ofValue v with
    | .error f => .error f
    | .ok c => (ofValues rest).map (c :: ·)

/-- The fields of entries. -/
def ofEntries : List (String × Value) → Except ColumnFault (List (String × Cell))
  | [] => .ok []
  | (name, v) :: rest =>
    match ofValue v with
    | .error f => .error f
    | .ok c => (ofEntries rest).map ((name, c) :: ·)

end

/-- The column that values form. -/
def columnOf (vs : List Value) : Except ColumnFault (ColumnType × List Value) :=
  columnOfCells vs (ofValues vs)

end Cell

end Vicinity
