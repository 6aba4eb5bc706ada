import Vicinity.Column.Type

/-!
# Columns

A `Column` has a name, a type and cells.
-/

namespace Vicinity

/-- A named column. -/
structure Column where
  name : String
  type : ColumnType
  values : List Value

end Vicinity
