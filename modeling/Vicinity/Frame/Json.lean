import Vicinity.Frame
import Vicinity.Json.Reader
import Vicinity.Json.Writer
import Vicinity.Text.Codec.Utf8

/-!
# Frames as JSON

The text of a frame is a JSON object of its columns, each with its name, its type and its cells.
`Frame.ofText?` reads it back and refuses every text that is no frame : columns of unknown types or
of different heights, and cells that are not of the type of their column. The file of a frame is
this text after a mark.
-/

namespace Vicinity

namespace ColumnType

/-- The names of the types of scalars. -/
def names : List (String × ColumnType) :=
  [("integer", integer), ("unsigned", unsigned), ("wide", wide),
    ("wideUnsigned", wideUnsigned), ("float", float), ("boolean", boolean), ("text", text),
    ("position", position), ("null", null)]

mutual

/-- A type as JSON : its name, the type of its items in an array, or the types of its fields in
an object. -/
def toValue : ColumnType → Value
  | list t => .list [t.toValue]
  | record fields => .dict (toEntries fields)
  | t => ((names.find? fun e => e.2 == t).map fun e => .text e.1).getD .null

/-- The types of fields as JSON. -/
def toEntries : List (String × ColumnType) → List (String × Value)
  | [] => []
  | (name, t) :: fields => (name, t.toValue) :: toEntries fields

end

mutual

/-- The type that JSON stands for. -/
def ofValue? : Value → Option ColumnType
  | .list [v] => (ofValue? v).map list
  | .dict entries => (ofEntries? entries).map record
  | .text s => (names.find? fun e => e.1 == s).map Prod.snd
  | _ => none

/-- The types of fields that JSON stands for. -/
def ofEntries? : List (String × Value) → Option (List (String × ColumnType))
  | [] => some []
  | (name, v) :: entries =>
    match ofValue? v, ofEntries? entries with
    | some t, some fields => some ((name, t) :: fields)
    | _, _ => none

end

end ColumnType

namespace Column

/-- A column as a JSON object. -/
def toDict (c : Column) : Value :=
  .dict [("name", .text c.name), ("type", c.type.toValue), ("cells", .list c.values)]

/-- The column of a JSON object. -/
def ofDict? : Value → Option Column
  | .dict [("name", .text name), ("type", typeValue), ("cells", .list values)] => do
    let type ← ColumnType.ofValue? typeValue
    if values.all type.holds then some ⟨name, type, values⟩ else none
  | _ => none

end Column

namespace Frame

/-- Whether all columns are as high as the frame. -/
def isEven (f : Frame) : Bool := f.columns.all fun c => c.values.length == f.height

/-- The text of a frame. -/
def toText (f : Frame) : String :=
  Json.indented (.dict [("columns", .list (f.columns.map Column.toDict))])

/-- The frame of a text. -/
def ofText? (s : String) : Option Frame :=
  match Json.read s with
  | .ok (.dict [("columns", .list columns)]) =>
    ((columns.mapM Column.ofDict?).map Frame.mk).filter isEven
  | _ => none

/-- The bytes with which the file of a frame begins. -/
def mark : List UInt8 := [0x50, 0x41, 0x52, 0x31]

/-- The file of a frame. -/
def toBytes (f : Frame) : List UInt8 := mark ++ Text.Utf8.encode f.toText.toList

/-- The frame in a file. -/
def ofBytes? (bytes : List UInt8) : Option Frame :=
  if mark.isPrefixOf bytes then
    match Text.Codec.utf8.decode true 0 (bytes.drop mark.length) with
    | .ok (chars, _) => ofText? (String.ofList chars)
    | .error _ => none
  else none

end Frame

end Vicinity
