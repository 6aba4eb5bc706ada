import Vicinity.ObjectTable

/-!
# Messages about tables

Why a table is not made, read or written, and why there are no objects in it.
-/

namespace Vicinity

/-- The wording of a path with a null character. -/
def pathContainsNulMessage : String := "The path contains a null character"

/-- The wording of a path that stands for no files. -/
def ExpandFault.message : ExpandFault → String
  | opening e => e.message
  | containsNul => pathContainsNulMessage
  | badPattern => "The pattern of the table of objects is malformed"
  | noFiles => "There are no tables of objects"
  | mixedSuffixes => "The tables of objects have different suffixes"

/-- The wording of an item that is no object. -/
def ItemFault.message : ItemFault → String
  | notIterable => "An object is neither a record nor a sequence"
  | tooFew => "An object has no identifier or no labels"
  | labelsNotIterable => "The labels of an object are neither a text nor a sequence"

/-- The wording of cells that form no column. -/
def ColumnFault.message : ColumnFault → String
  | mixedTypes => "The cells of a column are not of one type"
  | integerTooLarge => "A cell is a number that is too large"

/-- The wording of a frame that cannot be used. -/
def FrameFault.message : FrameFault → String
  | missingColumn name => "There is no column " ++ Text.quoted name
  | badCell f => f.message

/-- The wording of a text that is no table. -/
def Csv.Fault.message : Csv.Fault → String
  | empty => "The table of objects is empty"
  | malformed => "The table of objects is malformed"
  | differentColumns => "The tables of objects have different columns"

/-- The wording of directories that tell no columns. -/
def Partition.Fault.message : Partition.Fault → String
  | unknownKey key => "There is no column " ++ Text.quoted key ++ " of the first directory"
  | badValue value => "The value " ++ Text.quoted value ++ " is not of the type of its column"

/-- The wording of a table that is not made, read or written. -/
def TableFault.message : TableFault → String
  | column f => f.message
  | files f => f.message
  | damaged => "The table of objects is compressed and damaged"
  | text f => f.message
  | badPattern => "The name of a column is no pattern"
  | notFrame => "The table of objects is no frame"
  | differentFrames => Csv.Fault.differentColumns.message
  | partition f => f.message
  | frame f => f.message
  | writing e => e.message
  | pathContainsNul => pathContainsNulMessage

end Vicinity
