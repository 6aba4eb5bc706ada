import Vicinity.TableLibrary
import Vicinity.TableLibrary.Message

/-!
# The standard table library

The library of tables that the program runs with. The type of a column of values follows from its
cells (`Cell.columnOf`); texts and positions have their types from the beginning. Texts are read as
`ObjectTable.readTexts` says, and a table that is written is the file of its frame.
-/

namespace Vicinity

namespace Column

/-- A column of values. -/
def ofValues (name : String) (cells : List Value) : Except ColumnFault Column :=
  (Cell.columnOf cells).map fun typed => ⟨name, typed.1, typed.2⟩

/-- A column of texts. If not all values are texts, one that is no cell at all is the fault. -/
def ofTexts (name : String) (cells : List Value) : Except ColumnFault Column :=
  match cells.mapM (Cell.scalarAs? .text) with
  | some values => .ok ⟨name, .text, values⟩
  | none => (Cell.ofValues cells).bind fun _ => .error .mixedTypes

/-- A column of positions. -/
def ofPositions (name : String) (cells : List Nat) : Except ColumnFault Column :=
  if cells.all fun n => ColumnType.position.holdsInt n then
    .ok ⟨name, .position, cells.map fun (n : Nat) => .int n⟩
  else .error .integerTooLarge

/-- A column of any cells. -/
def ofCells : String × ColumnCells → Except ColumnFault Column
  | (name, .values cells) => ofValues name cells
  | (name, .texts cells) => ofTexts name cells
  | (name, .positions cells) => ofPositions name cells

end Column

namespace ObjectTable

/-- The table of some columns. -/
def make (columns : List (String × ColumnCells)) : Except TableFault Frame :=
  ((columns.mapM Column.ofCells).map Frame.mk).mapError .column

/-- Write a table. -/
def write (fs : FileSystem) (path : String) (f : Frame) : Except TableFault FileSystem :=
  if path.contains '\x00' then .error .pathContainsNul
  else (fs.write path (.file f.toBytes)).mapError .writing

end ObjectTable

/-- The library that the program runs with. -/
def TableLibrary.standard : TableLibrary where
  Fault := TableFault
  message := TableFault.message
  make := ObjectTable.make
  readTexts := ObjectTable.readTexts
  splitTexts := ObjectTable.splitTexts
  readFrame := ObjectTable.readFrame
  write := ObjectTable.write

end Vicinity
