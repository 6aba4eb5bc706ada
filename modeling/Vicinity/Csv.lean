import Vicinity.Frame
import Vicinity.Selection
import Vicinity.Text.Codec.Utf8
import Vicinity.Text.Tokens

/-!
# Tables of comma-separated values

Rows of cells with commas between them, one row per line; the first line that is not blank names
the columns. A cell without characters is null. A cell that begins with a quote must end with one,
and then holds commas, line feeds and doubled quotes as text; in other cells a quote is a
character like any other. A carriage return at the end of a cell does not count.

Every line after the first is a row, even a blank one. A row that is too short is filled up with
nulls; one that is too long is a fault. Lines and cells do not see quotes in the same way : for
lines every quote begins or ends a quoted part, wherever it stands (`Csv.lines`), for cells only
those in a cell that begins with one. Where that makes a difference to the number of rows the text
is malformed (`Csv.readLines`).

All that has a meaning here is ASCII, so that a text is taken apart as bytes, and only names and
cells are decoded.
-/

namespace Vicinity

namespace Csv

/-- Why a text is no table. -/
inductive Fault where
  /-- There is no line that names the columns. -/
  | empty
  | malformed
  /-- Tables that are to be read as one have different columns. -/
  | differentColumns
deriving DecidableEq

/-! ## Lines -/

/-- The byte of a quote. -/
def quote : UInt8 := 0x22

/-- The byte of a comma. -/
def comma : UInt8 := 0x2c

/-- The byte of a line feed. -/
def lineFeed : UInt8 := 0x0a

/-- The byte of a carriage return. -/
def carriageReturn : UInt8 := 0x0d

/-- Put a byte before the first piece. -/
def consFirst (b : UInt8) : List (List UInt8) → List (List UInt8)
  | [] => [[b]]
  | piece :: pieces => (b :: piece) :: pieces

/-- The pieces between the line feeds that stand outside of quotes. `inside` tells whether the
text begins within quotes. -/
def lines (inside : Bool) : List UInt8 → List (List UInt8)
  | [] => [[]]
  | b :: rest =>
    let inside := inside != (b == quote)
    if b = lineFeed && !inside then [] :: lines inside rest
    else consFirst b (lines inside rest)

/-- The bytes without a last one that is `b`. -/
def withoutLast (b : UInt8) (bytes : List UInt8) : List UInt8 :=
  if bytes.getLast? = some b then bytes.dropLast else bytes

/-! ## Fields -/

/-- Whether a field ends here, outside of quotes. -/
def isEnd (b : UInt8) : Bool := b = comma || b = lineFeed

/-- A field that begins with a quote, and what follows it. -/
def spanQuoted (inside : Bool) : List UInt8 → List UInt8 × List UInt8
  | [] => ([], [])
  | b :: rest =>
    let inside := inside != (b == quote)
    if isEnd b && !inside then ([], b :: rest)
    else
      let (field, after) := spanQuoted inside rest
      (b :: field, after)

/-- The first field of a text, and what follows it. -/
def spanField (bytes : List UInt8) : List UInt8 × List UInt8 :=
  if bytes.head? = some quote then spanQuoted false bytes
  else (bytes.takeWhile fun b => !isEnd b, bytes.dropWhile fun b => !isEnd b)

/-- The bytes between the outer quotes of a field : of two quotes that follow each other the
second one is kept, one that stands alone is not. -/
def unquoted (afterQuote : Bool) : List UInt8 → List UInt8
  | [] => []
  | b :: rest =>
    if b = quote then if afterQuote then b :: unquoted false rest else unquoted true rest
    else b :: unquoted false rest

/-- The cell of some bytes. All of them have to be decoded. -/
def cellOfBytes (bytes : List UInt8) : Except Fault Value :=
  match Text.Codec.utf8.decode true 0 bytes with
  | .ok (chars, _) => .ok (.text (String.ofList chars))
  | .error _ => .error .malformed

/-- The cell of a field. -/
def cellOfField (field : List UInt8) : Except Fault Value :=
  match withoutLast carriageReturn field with
  | [] => .ok .null
  | b :: rest =>
    if b = quote then
      if rest.getLast? = some quote then cellOfBytes (unquoted false rest.dropLast)
      else .error .malformed
    else cellOfBytes (b :: rest)

/-! ## Rows -/

/-- A row of a width, and what follows its line feed. A comma after the last cell is allowed only
where the text ends. -/
def readRow : (width : Nat) → List UInt8 → Except Fault (List Value × List UInt8)
  | 0, [] => .ok ([], [])
  | 0, _ :: _ => .error .malformed
  | width + 1, bytes => do
    let (field, after) := spanField bytes
    let cell ← cellOfField field
    match after with
    | [] => return (cell :: List.replicate width .null, [])
    | b :: rest =>
      if b = lineFeed then return (cell :: List.replicate width .null, rest)
      else
        let (cells, rest) ← readRow width rest
        return (cell :: cells, rest)

/-- Rows of a width. Every row takes at least one byte, so that `todo`, which is at least their
number, never runs out. -/
def readRows (width : Nat) : (todo : Nat) → List UInt8 → Except Fault (List (List Value))
  | 0, _ => .ok []
  | _ + 1, [] => .ok []
  | todo + 1, bytes => do
    let (row, rest) ← readRow width bytes
    return row :: (← readRows width todo rest)

/-- Rows of a width, of which there must be `count`. -/
def readExactly (width count : Nat) (bytes : List UInt8) : Except Fault (List (List Value)) := do
  let rows ← readRows width bytes.length bytes
  if rows.length = count then return rows else throw .malformed

/-- The number of rows of the last line : none if it is empty, or if it ends with a line feed that
must then stand within quotes. -/
def lastRowCount (line : List UInt8) : Nat :=
  match line.getLast? with
  | none => 0
  | some b => if b = lineFeed then 0 else 1

/-- The rows of lines. Each line but the last has one row. -/
def readLines (width : Nat) (lines : List (List UInt8)) : Except Fault (List (List Value)) := do
  let whole := lines.dropLast
  let last := lines.getLast?.getD []
  let rows ← readExactly width whole.length (whole.flatMap fun line => line ++ [lineFeed])
  let lastRows ← readExactly width (lastRowCount last) last
  return rows ++ lastRows

/-! ## Names of columns -/

/-- What stands for bytes that are not decoded. -/
def replacement : Char := '\ufffd'

/-- The name in a field : without its first and its last byte if the first one is a quote. -/
def nameOfField (field : List UInt8) : String :=
  let bytes := if field.head? = some quote ∧ 2 ≤ field.length then field.tail.dropLast else field
  String.ofList ((Text.Codec.utf8.decodeEach bytes).map fun c => c.getD replacement)

/-- The names in a line. Every field but the last takes at least one byte, so that `todo`, which
is greater than their number, never runs out. -/
def namesOfLine : (todo : Nat) → List UInt8 → List String
  | 0, _ => []
  | todo + 1, bytes =>
    let (field, after) := spanField bytes
    match after with
    | [] => [nameOfField field]
    | b :: rest =>
      if b = comma then nameOfField field :: namesOfLine todo rest else [nameOfField field]

/-- Names are numbered from their second occurrence on; of those that are still equal the first
one stands. -/
def distinctNames (names : List String) : List String :=
  (names.zipIdx.map fun (name, i) =>
    match (names.take i).count name with
    | 0 => name
    | n + 1 => name ++ "_duplicated_" ++ toString n).eraseDups

/-! ## Tables -/

/-- The names of the columns, and the lines that follow. -/
structure Sheet where
  names : List String
  lines : List (List UInt8)

/-- The bytes without a byte order mark at their beginning. -/
def withoutMark (bytes : List UInt8) : List UInt8 :=
  if Text.Utf8.mark.isPrefixOf bytes then bytes.drop Text.Utf8.mark.length else bytes

/-- A line that is passed over before the names of the columns. -/
def isBlankLine (line : List UInt8) : Bool := line = [] || line = [carriageReturn]

namespace Sheet

/-- The sheet of a file. -/
def ofBytes (bytes : List UInt8) : Except Fault Sheet :=
  match (Csv.lines false (withoutMark bytes)).dropWhile isBlankLine with
  | [] => .error .empty
  | first :: lines =>
    let header := withoutLast carriageReturn first
    .ok ⟨distinctNames (namesOfLine (header.length + 1) header), lines⟩

/-- The rows of a sheet. -/
def rows (s : Sheet) : Except Fault (List (List Value)) := readLines s.names.length s.lines

end Sheet

/-- The frame of names and rows. All columns hold texts. -/
def frameOfRows (names : List String) (rows : List (List Value)) : Frame :=
  ⟨names.zipIdx.map fun (name, i) => ⟨name, .text, rows.map fun row => row[i]?.getD .null⟩⟩

/-- The frame of sheets with the same columns, one below the other. -/
def frameOfSheets (sheets : List Sheet) : Except Fault Frame :=
  match sheets with
  | [] => .error .empty
  | first :: others => do
    if others.any fun s => s.names != first.names then throw .differentColumns
    let rows ← sheets.mapM Sheet.rows
    return frameOfRows first.names rows.flatten

/-! ## Cells with several texts -/

/-- The texts of a cell between separators. -/
def splitCell (separator : Char) : Value → Value
  | .text s => .list ((Text.splitAt separator s.toList).map fun cs => .text (String.ofList cs))
  | v => v

/-- Split the cells of the columns that are selected. One that is selected by its name must be
there. -/
def splitColumns (separator : Char) (selection : Selection) (f : Frame) :
    Except FrameFault Frame := do
  match selection with
  | .one name => discard (f.column name)
  | .all | .matching _ => pure ()
  return ⟨f.columns.map fun c =>
    if selection.contains c.name then
      { c with type := .list .text, values := c.values.map (splitCell separator) }
    else c⟩

end Csv

end Vicinity
