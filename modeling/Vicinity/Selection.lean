import Vicinity.Pattern.Reader

/-!
# Names that stand for columns

A name stands for the column of that name. An asterisk stands for all columns, and a name that is
a pattern from one end to the other, from `^` to `$`, for those whose names match it.
-/

namespace Vicinity

/-- The columns that a name stands for. -/
inductive Selection where
  | one (name : String)
  | all
  | matching (p : Pattern)
deriving DecidableEq

namespace Selection

/-- Whether a name is to be read as a pattern. -/
def isPattern (name : String) : Bool :=
  name.toList.head? = some '^' && name.toList.getLast? = some '$'

/-- What a name stands for. A pattern has to be written as one. -/
def ofName? (name : String) : Option Selection :=
  if name = "*" then some all
  else if isPattern name then (Pattern.ofText? name).map matching
  else some (one name)

/-- Whether a column is selected. -/
def contains : Selection → String → Bool
  | one name, column => column == name
  | all, _ => true
  | matching p, column => p.isMatch column

end Selection

end Vicinity
