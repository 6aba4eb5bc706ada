import Vicinity.Binary64

/-!
# Values

A `Value` is what an object identifier, a label cell or a setting can be : nothing, a truth
value, a whole number, a binary floating-point number, a text, a tuple or a list of values, or a
dictionary from texts to values in a fixed order. Identifiers are opaque to the library; all it
asks of them is whether two are the same and whether one can serve as a key. A tuple is one
identifier made of several and can be a key; a list is a cell or a setting that holds several
values, and cannot.

Equality of the syntax is decidable (`Value.instDecidableEq`). Sameness of what is meant,
under which `1`, `1.0` and `true` coincide, is `Value.Same` in `Vicinity.Value.Same`.
-/

namespace Vicinity

/-- A dynamic value : an identifier, a cell or a setting. -/
inductive Value where
  | null
  | bool (b : Bool)
  | int (n : Int)
  | float (x : Binary64)
  | text (s : String)
  | tuple (items : List Value)
  | list (items : List Value)
  | dict (entries : List (String × Value))
deriving Inhabited

namespace Value

/-! ## Decidable equality -/

mutual

/-- Equality of the syntax. -/
def beq : Value → Value → Bool
  | null, null => true
  | bool a, bool b => a == b
  | int a, int b => a == b
  | float a, float b => a == b
  | text a, text b => a == b
  | tuple a, tuple b => beqItems a b
  | list a, list b => beqItems a b
  | dict a, dict b => beqEntries a b
  | _, _ => false

/-- Equality of items, one by one. -/
def beqItems : List Value → List Value → Bool
  | [], [] => true
  | a :: as, b :: bs => a.beq b && beqItems as bs
  | _, _ => false

/-- Equality of the entries of two dictionaries, one by one. -/
def beqEntries : List (String × Value) → List (String × Value) → Bool
  | [], [] => true
  | (j, a) :: as, (k, b) :: bs => j == k && a.beq b && beqEntries as bs
  | _, _ => false

end

mutual

theorem beq_iff_eq : ∀ a b : Value, a.beq b = true ↔ a = b
  | null, b => by cases b <;> simp [beq]
  | bool _, b => by cases b <;> simp [beq]
  | int _, b => by cases b <;> simp [beq]
  | float _, b => by cases b <;> simp [beq]
  | text _, b => by cases b <;> simp [beq]
  | tuple as, b => by cases b <;> simp [beq, beqItems_iff_eq as]
  | list as, b => by cases b <;> simp [beq, beqItems_iff_eq as]
  | dict as, b => by cases b <;> simp [beq, beqEntries_iff_eq as]

theorem beqItems_iff_eq : ∀ a b : List Value, beqItems a b = true ↔ a = b
  | [], b => by cases b <;> simp [beqItems]
  | a :: as, b => by cases b <;> simp [beqItems, beq_iff_eq a, beqItems_iff_eq as]

theorem beqEntries_iff_eq : ∀ a b : List (String × Value), beqEntries a b = true ↔ a = b
  | [], b => by cases b <;> simp [beqEntries]
  | (k, a) :: as, b => by
    rcases b with _ | ⟨⟨j, c⟩, bs⟩ <;> simp [beqEntries, beq_iff_eq a, beqEntries_iff_eq as]

end

instance instDecidableEq : DecidableEq Value := fun a b =>
  decidable_of_iff _ (beq_iff_eq a b)

/-! ## Keys, truth and iteration -/

mutual

/-- A value can be a key unless it is a list or a dictionary, or a tuple that holds one. -/
def isHashable : Value → Bool
  | tuple items => areHashable items
  | list _ | dict _ => false
  | null | bool _ | int _ | float _ | text _ => true

/-- Every item can be a key. -/
def areHashable : List Value → Bool
  | [] => true
  | v :: rest => v.isHashable && areHashable rest

end

/-- The greatest number of decimal digits of a whole number that is read or written as text. -/
def maxDigits : Nat := 4300

/-- A setting counts as set unless it is null, false, zero or empty. -/
def isTruthy : Value → Bool
  | null => false
  | bool b => b
  | int n => n != 0
  | float x => !x.isZero
  | text s => s != ""
  | tuple items | list items => !items.isEmpty
  | dict entries => !entries.isEmpty

/-- Null is the absence of a value. -/
def toOption : Value → Option Value
  | null => none
  | v => some v

/-- What walking through a value yields : the characters of a text, the items of a tuple or a
list, the keys of a dictionary. Other values cannot be walked through. -/
def elements? : Value → Option (List Value)
  | text s => some (s.toList.map fun c => text (String.singleton c))
  | tuple items | list items => some items
  | dict entries => some (entries.map fun e => text e.1)
  | null | bool _ | int _ | float _ => none

/-- The value of a key in the entries of a dictionary. -/
def lookup? (entries : List (String × Value)) (key : String) : Option Value :=
  (entries.find? fun e => e.1 == key).map Prod.snd

/-- Store under a key : an existing key keeps its position and takes the new value. -/
def setEntry (key : String) (value : Value) : List (String × Value) → List (String × Value)
  | [] => [(key, value)]
  | (k, v) :: rest => if k = key then (k, value) :: rest else (k, v) :: setEntry key value rest

end Value

end Vicinity
