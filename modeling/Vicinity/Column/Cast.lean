import Vicinity.Binary64.Text
import Vicinity.Column.Type
import Vicinity.Json.Reader

/-!
# Casting cells

A cell of one type can be written as one of another type (`ColumnType.cast`), unless one of the
types is made of others and the other is not (`ColumnType.isCastable`). A cell that has no
counterpart becomes null. Fractions are cut off, lists are cast item by item and records field
by field.
-/

namespace Vicinity

namespace ColumnType

/-! ## Numbers in texts -/

/-- Whether a text begins with a minus sign, and what follows the sign it begins with. -/
def spanSign : List Char → Bool × List Char
  | '-' :: rest => (true, rest)
  | '+' :: rest => (false, rest)
  | chars => (false, chars)

/-- The whole number that a text writes in digits. -/
def intOfText? (s : String) : Option Int :=
  let (negative, digits) := spanSign s.toList
  if digits.isEmpty || !digits.all Char.isDigit then none
  else
    let n : Int := Json.digitsValue digits
    some (if negative then -n else n)

/-- The number that a word stands for. -/
def floatOfWord? (negative : Bool) (word : List Char) : Option Binary64 :=
  let word := String.ofList (word.map Char.toLower)
  if word = "inf" ∨ word = "infinity" then some (.infinite negative)
  else if word = "nan" then some .nan
  else none

/-- The digits after a point, and what follows them. Without a point there are none. -/
def spanFraction : List Char → List Char × List Char
  | '.' :: rest => (rest.takeWhile Char.isDigit, rest.dropWhile Char.isDigit)
  | chars => ([], chars)

/-- The exponent at the end of a text. Without one it is zero. -/
def exponentOfEnd? : List Char → Option Int
  | [] => some 0
  | chars =>
    match Json.readExponent chars with
    | some (n, []) => some n
    | _ => none

/-- The floating-point number that a text writes : digits with or without a point, and an
exponent, or a word. -/
def floatOfText? (s : String) : Option Binary64 :=
  let (negative, chars) := spanSign s.toList
  let whole := chars.takeWhile Char.isDigit
  let (fraction, rest) := spanFraction (chars.dropWhile Char.isDigit)
  if whole.isEmpty && fraction.isEmpty then floatOfWord? negative chars
  else
    (exponentOfEnd? rest).map fun exponent =>
      .ofScientific negative (Json.digitsValue (whole ++ fraction)) (exponent - fraction.length)

/-! ## Scalars -/

/-- The whole number of a scalar : the fraction of a number is cut off. -/
def intOfScalar? : Value → Option Int
  | .int n => some n
  | .bool b => some (if b then 1 else 0)
  | .float x => x.truncate?
  | .text s => intOfText? s
  | .null | .tuple _ | .list _ | .dict _ => none

/-- The floating-point number of a scalar. -/
def floatOfScalar? : Value → Option Binary64
  | .float x => some x
  | .int n => some (.ofInt n)
  | .bool b => some (.ofInt (if b then 1 else 0))
  | .text s => floatOfText? s
  | .null | .tuple _ | .list _ | .dict _ => none

/-- The truth value of a scalar : of numbers only zero is false. -/
def boolOfScalar? : Value → Option Bool
  | .bool b => some b
  | .int n => some (n != 0)
  | .float x => some !x.isZero
  | .null | .text _ | .tuple _ | .list _ | .dict _ => none

/-- The text of a scalar. -/
def textOfScalar? : Value → Option String
  | .text s => some s
  | .bool b => some (if b then "true" else "false")
  | .int n => some (toString n)
  | .float x => some (String.ofList (x.toText "inf".toList "NaN".toList))
  | .null | .tuple _ | .list _ | .dict _ => none

/-- A scalar as a cell of a type of scalars. -/
def castScalar (type : ColumnType) (v : Value) : Value :=
  match type with
  | integer | unsigned | wide | wideUnsigned | position =>
    match intOfScalar? v with
    | some n => if type.holdsInt n then .int n else .null
    | none => .null
  | float => ((floatOfScalar? v).map .float).getD .null
  | boolean => ((boolOfScalar? v).map .bool).getD .null
  | text => ((textOfScalar? v).map .text).getD .null
  | null | list _ | record _ => .null

/-! ## Cells -/

mutual

/-- Whether cells of a type can be cast to another type. -/
def isCastable : ColumnType → ColumnType → Bool
  | null, _ => true
  | list s, list t => isCastable s t
  | record fields, record others => areCastable others fields
  | list _, _ | _, list _ | record _, _ | _, record _ => false
  | text, boolean => false
  | _, _ => true

/-- Whether fields can be cast to those of the same names among others, if there are any. -/
def areCastable (others : List (String × ColumnType)) : List (String × ColumnType) → Bool
  | [] => true
  | (name, s) :: fields =>
    (match others.find? fun e => e.1 == name with
      | some e => isCastable s e.2
      | none => true) && areCastable others fields

end

mutual

/-- A cell as a cell of a type. -/
def cast : ColumnType → Value → Value
  | list t, .list vs => .list (vs.map (cast t))
  | record fields, .dict entries => .dict (castFields entries fields)
  | t, v => castScalar t v

/-- The fields of a record as fields of types. -/
def castFields (entries : List (String × Value)) :
    List (String × ColumnType) → List (String × Value)
  | [] => []
  | (name, t) :: fields =>
    (name, cast t ((Value.lookup? entries name).getD .null)) :: castFields entries fields

end

end ColumnType

end Vicinity
