import Vicinity.Value

/-!
# Sameness of values

Two identifiers are the same when they mean the same thing : numbers by their value, whatever
their spelling (`1`, `1.0`, `true`), tuples and lists item by item, dictionaries by their keys in
any order. `Value.canonical` chooses one spelling for all that mean the same (whole numbers for
truth values and for floating-point numbers without a fraction, keys in ascending order), and
`Value.Same` compares these spellings, so it is an equivalence by construction.
`Value.isHashable_eq_of_same` says that sameness respects the ability to be a key.

There is one floating-point value that is no number, and it stands for one object : a key of it is
found again, and a tuple that holds it means the same as itself. Compared by itself such a value
equals nothing, not even itself (`Value.Equates`).
-/

namespace Vicinity

namespace Value

/-- Insert into entries sorted by key; an entry that is already there stands. -/
def insertSorted (key : String) (value : Value) :
    List (String × Value) → List (String × Value)
  | [] => [(key, value)]
  | (k, v) :: rest =>
    if key < k then (key, value) :: (k, v) :: rest
    else if key = k then (k, v) :: rest
    else (k, v) :: insertSorted key value rest

mutual

/-- The one spelling of all values that mean the same. -/
def canonical : Value → Value
  | null => null
  | bool b => int (if b then 1 else 0)
  | int n => int n
  | float x =>
    match x.toInt? with
    | some n => int n
    | none => float x
  | text s => text s
  | tuple items => tuple (canonicalItems items)
  | list items => list (canonicalItems items)
  | dict entries => dict (canonicalEntries entries)

/-- The spellings of the items, in order. -/
def canonicalItems : List Value → List Value
  | [] => []
  | v :: rest => v.canonical :: canonicalItems rest

/-- The entries in ascending order of their keys; of equal keys the last stands. -/
def canonicalEntries : List (String × Value) → List (String × Value)
  | [] => []
  | (k, v) :: rest => insertSorted k v.canonical (canonicalEntries rest)

end

/-- Both values mean the same. -/
def Same (a b : Value) : Prop := a.canonical = b.canonical

instance (a b : Value) : Decidable (Same a b) :=
  inferInstanceAs (Decidable (a.canonical = b.canonical))

theorem Same.refl (a : Value) : Same a a := rfl

theorem Same.symm {a b : Value} (h : Same a b) : Same b a := Eq.symm h

theorem Same.trans {a b c : Value} (h : Same a b) (h' : Same b c) : Same a c := Eq.trans h h'

/-- The value is no number though it is a floating-point one. -/
def IsNaN (a : Value) : Prop := a = float .nan

instance (a : Value) : Decidable a.IsNaN := inferInstanceAs (Decidable (a = float .nan))

/-- Both values mean the same when they are compared. -/
def Equates (a b : Value) : Prop := ¬ a.IsNaN ∧ a.Same b

instance (a b : Value) : Decidable (Equates a b) :=
  inferInstanceAs (Decidable (¬ a.IsNaN ∧ a.Same b))

theorem Same.isNaN {a b : Value} (h : Same a b) (hb : b.IsNaN) : a.IsNaN := by
  obtain rfl : b = float .nan := hb
  cases a with
  | float x =>
    simp only [Same, canonical] at h
    split at h
    · cases h
    · exact h
  | _ => cases h

theorem equates_self {a : Value} (h : ¬ a.IsNaN) : Equates a a := ⟨h, .refl a⟩

theorem Equates.symm {a b : Value} (h : Equates a b) : Equates b a :=
  ⟨fun hb => h.1 (h.2.isNaN hb), h.2.symm⟩

theorem Equates.trans {a b c : Value} (h : Equates a b) (h' : Equates b c) : Equates a c :=
  ⟨h.1, h.2.trans h'.2⟩

/-! ## Keys -/

mutual

theorem isHashable_canonical : ∀ a : Value, a.canonical.isHashable = a.isHashable
  | null => rfl
  | bool _ => rfl
  | int _ => rfl
  | float x => by
    rw [canonical]
    split <;> rfl
  | text _ => rfl
  | tuple items => by simp only [canonical, isHashable, areHashable_canonicalItems items]
  | list _ => rfl
  | dict _ => rfl

theorem areHashable_canonicalItems :
    ∀ items : List Value, areHashable (canonicalItems items) = areHashable items
  | [] => rfl
  | v :: rest => by
    simp only [canonicalItems, areHashable, isHashable_canonical v, areHashable_canonicalItems rest]

end

/-- Of two values that mean the same, both or neither can be a key. -/
theorem isHashable_eq_of_same {a b : Value} (h : Same a b) : a.isHashable = b.isHashable := by
  rw [← isHashable_canonical a, ← isHashable_canonical b, h]

end Value

end Vicinity
