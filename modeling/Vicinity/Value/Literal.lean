import Vicinity.Binary64.Text
import Vicinity.Value
import Vicinity.Text.Quoted

/-!
# Values as text

`Value.literal` writes a value so that its kind can be seen : texts are quoted, tuples stand in
round brackets with a comma after a single item, lists in square ones, dictionaries in braces.
`Value.display` is the same but for a text, which is shown as it is.

Not every value is written : a whole number may have too many digits, and items may be nested too
deeply. `Value.literalFault?` finds the first fault that is met on the way.
-/

namespace Vicinity

namespace Value

mutual

/-- A value with its kind visible. -/
def literal : Value → String
  | null => "None"
  | bool b => if b then "True" else "False"
  | int n => toString n
  | float x => String.ofList (x.toText "inf".toList "nan".toList)
  | text s => Text.quoted s
  | tuple [] => "()"
  | tuple [v] => "(" ++ v.literal ++ ",)"
  | tuple (v :: w :: rest) => "(" ++ v.literal ++ literalItems (w :: rest) ++ ")"
  | list [] => "[]"
  | list (v :: rest) => "[" ++ v.literal ++ literalItems rest ++ "]"
  | dict [] => "\x7b\x7d"
  | dict ((k, v) :: rest) =>
    "\x7b" ++ Text.quoted k ++ ": " ++ v.literal ++ literalEntries rest ++ "\x7d"

/-- The items after the first, each with a comma before it. -/
def literalItems : List Value → String
  | [] => ""
  | v :: rest => ", " ++ v.literal ++ literalItems rest

/-- The entries after the first, each with a comma before it. -/
def literalEntries : List (String × Value) → String
  | [] => ""
  | (k, v) :: rest => ", " ++ Text.quoted k ++ ": " ++ v.literal ++ literalEntries rest

end

/-- A value as it is shown to a reader. -/
def display : Value → String
  | text s => s
  | v => v.literal

/-! ## Values that are not written -/

/-- Why a value is not written. -/
inductive LiteralFault where
  /-- A whole number has more than `maxDigits` digits. -/
  | longInteger
  /-- Values are nested too deeply. -/
  | tooDeep
deriving DecidableEq

mutual

/-- Why a value is not written with its kind visible, if it may be nested `depth` deep. -/
def literalFault? : (depth : Nat) → Value → Option LiteralFault
  | 0, _ => some .tooDeep
  | _ + 1, int n => if Nat.pow 10 maxDigits ≤ n.natAbs then some .longInteger else none
  | depth + 1, tuple items | depth + 1, list items => itemsFault? depth items
  | depth + 1, dict entries => entriesFault? depth entries
  | _ + 1, null | _ + 1, bool _ | _ + 1, float _ | _ + 1, text _ => none

/-- The fault of the first item that is not written. -/
def itemsFault? : (depth : Nat) → List Value → Option LiteralFault
  | _, [] => none
  | depth, v :: rest => (literalFault? depth v).or (itemsFault? depth rest)

/-- The fault of the first entry that is not written; its key is as deep as its value. -/
def entriesFault? : (depth : Nat) → List (String × Value) → Option LiteralFault
  | _, [] => none
  | depth, (_, v) :: rest => (literalFault? depth v).or (entriesFault? depth rest)

end

/-- Why a value is not shown to a reader. -/
def displayFault? (depth : Nat) : Value → Option LiteralFault
  | text _ => none
  | v => literalFault? depth v

end Value

end Vicinity
