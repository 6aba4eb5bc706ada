import Vicinity.FileSystem
import Vicinity.Frame

/-!
# Table libraries

Tables are made, read, written and split by a library that is not part of this one. All that is
known of it is what it can be asked for (`TableLibrary`). What it does is up to it : which columns
it makes of cells whose type is not given, which files a path stands for, how a table is laid out in
a file, and why it refuses. A statement that needs to know more says which laws it takes the library
to keep. `TableLibrary.standard` is the one that the program runs with.
-/

namespace Vicinity

/-- What a column is to be made of. -/
inductive ColumnCells where
  /-- Cells whose type is to be found out. -/
  | values (cells : List Value)
  /-- Cells that are to be texts. -/
  | texts (cells : List Value)
  /-- Counts from zero, in 32 bits. -/
  | positions (cells : List Nat)

/-- The cells as values. -/
def ColumnCells.toValues : ColumnCells → List Value
  | values cells | texts cells => cells
  | positions cells => cells.map fun (n : Nat) => .int n

/-- What a library of tables can be asked for. -/
structure TableLibrary where
  /-- Why it refuses. -/
  Fault : Type
  /-- The wording of a fault. -/
  message : Fault → String
  /-- Make a table of named columns. -/
  make : (columns : List (String × ColumnCells)) → Except Fault Frame
  /-- Read the table that a text holds, with texts in all cells. -/
  readTexts : (fs : FileSystem) → (path : String) → Except Fault Frame
  /-- Split the texts in the column of a name at each separator. -/
  splitTexts : (separator : Char) → (name : String) → (f : Frame) → Except Fault Frame
  /-- Read a table that was written. -/
  readFrame : (fs : FileSystem) → (path : String) → Except Fault Frame
  /-- Write a table. -/
  write : (fs : FileSystem) → (path : String) → (f : Frame) → Except Fault FileSystem

end Vicinity
