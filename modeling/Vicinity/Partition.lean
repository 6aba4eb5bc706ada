import Vicinity.Column.Cast
import Vicinity.Frame
import Vicinity.Text.Codec.Utf8
import Vicinity.Text.Hexadecimal
import Vicinity.Text.Tokens

/-!
# Frames in directories that tell a column

A directory whose name is a key and a value with an equals sign between them adds a column to the
frames below it : its name is the key, and all its cells are the value. Which columns there are
follows from the directories of the first frame. The type of such a column is that of the column
of the same name in the first frame, or else the one that all values together suggest
(`Partition.typeOfValues`).
-/

namespace Vicinity

namespace Partition

/-- A key and a value in the name of a directory. -/
abbrev Part := String × String

/-! ## Names of directories -/

/-- The bytes that are meant : a percent sign and two hexadecimal digits stand for one byte. -/
def unescaped : List UInt8 → List UInt8
  | [] => []
  | 0x25 :: hi :: lo :: rest =>
    match Text.bytesOfHexadecimal? [Char.ofNat hi.toNat, Char.ofNat lo.toNat] with
    | some bytes => bytes ++ unescaped rest
    | none => 0x25 :: unescaped (hi :: lo :: rest)
  | b :: rest => b :: unescaped rest

/-- The text that is meant by a value. -/
def textOfValue? (value : List Char) : Option String :=
  match Text.Codec.utf8.decode true 0 (unescaped (Text.Utf8.encode value)) with
  | .ok (chars, _) => some (String.ofList chars)
  | .error _ => none

/-- The key and the value in a name. There is no second equals sign in it, and the value is no
pattern. -/
def partOfName? (name : String) : Option Part :=
  match Text.splitAt '=' name.toList with
  | [key, value] =>
    if value.contains '*' then none
    else (textOfValue? value).map fun value => (String.ofList key, value)
  | _ => none

/-- The keys and values in the names of directories. -/
def partsOf (directories : List String) : List Part := directories.filterMap partOfName?

/-! ## Types of values -/

/-- The value that stands for null besides the empty one. -/
def nullValue : String := "__HIVE_DEFAULT_PARTITION__"

/-- Whether a value stands for null. -/
def isNull (value : String) : Bool := value = "" || value = nullValue

/-- Whether a value is a word for a truth value, in any case. -/
def truthOf? (value : String) : Option Bool :=
  let word := String.ofList (value.toList.map Char.toLower)
  if word = "true" then some true else if word = "false" then some false else none

/-- Whether characters are digits, of which there are some. -/
def areDigits (chars : List Char) : Bool := !chars.isEmpty && chars.all Char.isDigit

/-- Whether a value is a whole number in digits, with a minus sign or without. -/
def isInteger (value : String) : Bool :=
  match value.toList with
  | '-' :: digits => areDigits digits
  | digits => areDigits digits

/-- Whether a value is a number with a point or an exponent, or a word for one. -/
def isFloat (value : String) : Bool :=
  let (_, chars) := ColumnType.spanSign value.toList
  if chars = "inf".toList ∨ chars = "NaN".toList then true
  else
    chars.head?.any (fun c => c.isDigit || c = '.') && !areDigits chars &&
      (ColumnType.floatOfText? value).isSome

/-- The type that a value suggests. -/
def typeOfValue (value : String) : ColumnType :=
  if (truthOf? value).isSome then .boolean
  else if isFloat value then .float
  else if isInteger value then .integer
  else .text

/-- The type that values suggest together : they are texts unless they agree, or are all numbers. -/
def typeOfValues (values : List String) : ColumnType :=
  match ((values.filter fun v => !isNull v).map typeOfValue).eraseDups with
  | [t] => t
  | [.integer, .float] | [.float, .integer] => .float
  | _ => .text

/-- The cell of a value in a column of a type. -/
def cellOf? (type : ColumnType) (value : String) : Option Value :=
  if isNull value then some .null
  else
    match type with
    | .text => some (.text value)
    | .boolean => (truthOf? value).map .bool
    | type =>
      match type.cast (.text value) with
      | .null => none
      | v => some v

/-! ## Columns -/

/-- Why values give no columns. -/
inductive Fault where
  /-- A key is none of the first frame. -/
  | unknownKey (key : String)
  /-- A value is not of the type of its column. -/
  | badValue (value : String)
deriving DecidableEq

/-- The value of a key. Without one it is null. -/
def valueOf (parts : List Part) (key : String) : String :=
  ((parts.find? fun p => p.1 == key).map Prod.snd).getD nullValue

/-- The columns of keys, those of the first parts, with types. -/
def typesOf (first : Frame) (parts : List (List Part)) : List (String × ColumnType) :=
  let keys := ((parts.head?.getD []).map Prod.fst).eraseDups
  keys.map fun key =>
    match first.columns.find? fun c => c.name == key with
    | some c => (key, c.type)
    | none => (key, typeOfValues (parts.map fun ps => valueOf ps key))

/-- A frame with a column, in place of the one of that name if it is there. -/
def withColumn (f : Frame) (column : Column) : Frame :=
  if f.columns.any fun c => c.name == column.name then
    ⟨f.columns.map fun c => if c.name == column.name then column else c⟩
  else ⟨f.columns ++ [column]⟩

/-- A frame with the columns of keys. -/
def addTo (types : List (String × ColumnType)) (f : Frame) (parts : List Part) :
    Except Fault Frame := do
  if !types.isEmpty then
    if let some p := parts.find? fun p => !types.any fun e => e.1 == p.1 then
      throw (.unknownKey p.1)
  types.foldlM (fun g e =>
    match cellOf? e.2 (valueOf parts e.1) with
    | some v => return withColumn g ⟨e.1, e.2, List.replicate f.height v⟩
    | none => throw (.badValue (valueOf parts e.1))) f

/-- Frames with the columns that the directories tell in which they lie. -/
def addAll (frames : List (List String × Frame)) : Except Fault (List Frame) :=
  match frames with
  | [] => .ok []
  | (_, first) :: _ =>
    let types := typesOf first (frames.map fun e => partsOf e.1)
    frames.mapM fun e => addTo types e.2 (partsOf e.1)

end Partition

end Vicinity
