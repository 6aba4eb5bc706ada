import Vicinity.Value

/-!
# Types of columns

A column has one type, and any of its cells may be null. Whole numbers are of one of four types
that differ in their ranges (`ColumnType.range?`), cells can be lists of cells of one type, and
they can be records, whose fields have names and types of their own. `ColumnType.holds` tells the
cells of a type.

Equality of types is decidable (`ColumnType.instDecidableEq`). A type can leave open what the
cells are in some place, where it is null or a list of nulls; `ColumnType.fill` fills that in.
-/

namespace Vicinity

/-- What the cells of a column are, besides null. -/
inductive ColumnType where
  /-- Whole numbers of 64 bits with a sign. -/
  | integer
  /-- Whole numbers of 64 bits without a sign. -/
  | unsigned
  /-- Whole numbers of 128 bits with a sign. -/
  | wide
  /-- Whole numbers of 128 bits without a sign. -/
  | wideUnsigned
  | float
  | boolean
  | text
  /-- Counts from zero. -/
  | position
  /-- All cells are null. -/
  | null
  | list (items : ColumnType)
  | record (fields : List (String × ColumnType))

namespace ColumnType

/-! ## Decidable equality -/

mutual

/-- Equality of types. -/
def beq : ColumnType → ColumnType → Bool
  | integer, integer | unsigned, unsigned | wide, wide | wideUnsigned, wideUnsigned
  | float, float | boolean, boolean | text, text | position, position | null, null => true
  | list s, list t => beq s t
  | record fields, record others => beqFields fields others
  | _, _ => false

/-- Equality of fields, one by one. -/
def beqFields : List (String × ColumnType) → List (String × ColumnType) → Bool
  | [], [] => true
  | (j, s) :: fields, (k, t) :: others => j == k && beq s t && beqFields fields others
  | _, _ => false

end

mutual

theorem beq_iff_eq : ∀ s t : ColumnType, beq s t = true ↔ s = t
  | integer, t | unsigned, t | wide, t | wideUnsigned, t | float, t | boolean, t | text, t
  | position, t | null, t => by cases t <;> simp [beq]
  | list s, t => by cases t <;> simp [beq, beq_iff_eq s]
  | record fields, t => by cases t <;> simp [beq, beqFields_iff_eq fields]

theorem beqFields_iff_eq : ∀ fields others : List (String × ColumnType),
    beqFields fields others = true ↔ fields = others
  | [], others => by cases others <;> simp [beqFields]
  | (j, s) :: fields, others => by
    rcases others with _ | ⟨⟨k, t⟩, others⟩ <;>
      simp [beqFields, beq_iff_eq s, beqFields_iff_eq fields]

end

instance instDecidableEq : DecidableEq ColumnType := fun s t =>
  decidable_of_iff _ (beq_iff_eq s t)

/-! ## Whole numbers -/

/-- The least and the greatest whole number of a type, if it holds whole numbers. -/
def range? : ColumnType → Option (Int × Int)
  | integer => some (-9223372036854775808, 9223372036854775807)
  | unsigned => some (0, 18446744073709551615)
  | wide => some (-170141183460469231731687303715884105728,
      170141183460469231731687303715884105727)
  | wideUnsigned => some (0, 340282366920938463463374607431768211455)
  | position => some (0, 4294967295)
  | float | boolean | text | null | list _ | record _ => none

/-- Whether a whole number is one of a type. -/
def holdsInt (type : ColumnType) (n : Int) : Bool :=
  match type.range? with
  | some (least, greatest) => least ≤ n && n ≤ greatest
  | none => false

/-- The type of a whole number on its own. -/
def ofInt? (n : Int) : Option ColumnType :=
  [integer, wide, wideUnsigned].find? fun t => t.holdsInt n

/-! ## Cells -/

mutual

/-- Whether a value is a cell of a type. -/
def holds : ColumnType → Value → Bool
  | _, .null => true
  | list t, .list vs => vs.all (holds t)
  | record fields, .dict entries => holdEach fields entries
  | float, .float _ => true
  | boolean, .bool _ => true
  | text, .text _ => true
  | t, .int n => t.holdsInt n
  | _, _ => false

/-- Whether entries are fields of types. -/
def holdEach : List (String × ColumnType) → List (String × Value) → Bool
  | [], [] => true
  | (j, t) :: fields, (k, v) :: entries => j == k && holds t v && holdEach fields entries
  | _, _ => false

end

/-! ## Fields -/

/-- The type of a field. One that is not there is null in every cell. -/
def ofField (fields : List (String × ColumnType)) (name : String) : ColumnType :=
  ((fields.find? fun e => e.1 == name).map Prod.snd).getD null

mutual

/-- Fill in what a type leaves open with what another one says. -/
def fill : ColumnType → ColumnType → ColumnType
  | null, t => t
  | list null, list t => list t
  | record fields, record others => record (fillFields others fields)
  | s, _ => s

/-- Fill in the types of fields. -/
def fillFields (others : List (String × ColumnType)) :
    List (String × ColumnType) → List (String × ColumnType)
  | [] => []
  | (name, s) :: fields => (name, fill s (ofField others name)) :: fillFields others fields

end

end ColumnType

end Vicinity
