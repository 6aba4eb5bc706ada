import Vicinity.Deflate.Bits

/-!
# Codes of symbols

A `Code` gives symbols to sequences of bits such that none of them continues another : a binary
tree, one level per bit, that always takes at least one bit. Canonical codes are given by the
length of each symbol's sequence alone. Among sequences of one length those of smaller symbols
come first, and all of one length come before the longer ones (`Code.assign`); a set of lengths
is complete if its sequences are all there are (`Code.room`).
-/

namespace Vicinity

namespace Deflate

/-- What a sequence of bits leads to. -/
inductive CodeTree where
  | none
  | symbol (s : Nat)
  | fork (zero one : CodeTree)

/-- A code : what follows a zero and what follows a one. -/
structure Code where
  zero : CodeTree
  one : CodeTree

/-! ## Reading a symbol -/

/-- The symbol that the bits lead to, or the fault if they lead to none. -/
def CodeTree.read (f : Fault) : CodeTree → BitReader Nat
  | .none => .corrupt f
  | .symbol s => pure s
  | .fork zero one => fun bits =>
    match bits with
    | [] => .error .starved
    | false :: rest => zero.read f rest
    | true :: rest => one.read f rest

/-- The symbol that the bits lead to, or the fault if they lead to none. -/
def Code.read (f : Fault) (code : Code) : BitReader Nat := fun bits =>
  match bits with
  | [] => .error .starved
  | false :: rest => code.zero.read f rest
  | true :: rest => code.one.read f rest

theorem CodeTree.shrinks_read (f : Fault) : ∀ t : CodeTree, (t.read f).Shrinks
  | .none => BitReader.Shrinks.corrupt f
  | .symbol s => BitReader.Shrinks.pure s
  | .fork zero one => by
    intro bits s rest h
    match bits with
    | [] => cases h
    | false :: bits => exact Nat.le_succ_of_le (shrinks_read f zero h)
    | true :: bits => exact Nat.le_succ_of_le (shrinks_read f one h)

/-- A symbol takes at least one bit. -/
theorem Code.length_lt_of_read {f : Fault} {code : Code} {bits rest : List Bool} {s : Nat}
    (h : code.read f bits = .ok (s, rest)) : rest.length < bits.length := by
  match bits with
  | [] => cases h
  | false :: bits => exact Nat.lt_succ_of_le (code.zero.shrinks_read f h)
  | true :: bits => exact Nat.lt_succ_of_le (code.one.shrinks_read f h)

theorem Code.shrinks_read (f : Fault) (code : Code) : (code.read f).Shrinks :=
  fun _ _ _ h => Nat.le_of_lt (length_lt_of_read h)

/-! ## Canonical codes -/

/-- Put a symbol where the bits lead. -/
def CodeTree.put (s : Nat) : List Bool → CodeTree → CodeTree
  | [], _ => .symbol s
  | false :: path, .fork zero one => .fork (zero.put s path) one
  | true :: path, .fork zero one => .fork zero (one.put s path)
  | false :: path, _ => .fork (CodeTree.none.put s path) .none
  | true :: path, _ => .fork .none (CodeTree.none.put s path)

/-- The code that gives no symbol to any bits. -/
def Code.empty : Code := ⟨.none, .none⟩

/-- The code that gives a symbol to either bit. -/
def Code.constant (s : Nat) : Code := ⟨.symbol s, .symbol s⟩

/-- Give a symbol to a sequence of bits. -/
def Code.put (code : Code) (path : List Bool) (s : Nat) : Code :=
  match path with
  | [] => code
  | false :: path => { code with zero := code.zero.put s path }
  | true :: path => { code with one := code.one.put s path }

/-- The longest sequence of bits for a symbol. -/
def maxLength : Nat := 15

/-- The symbols whose sequences have a length. -/
def symbolsOfLength (lengths : List Nat) (n : Nat) : List Nat :=
  (lengths.zipIdx.filter fun e => e.1 = n).map Prod.snd

/-- The `n` bits of a number, the most significant first. -/
def pathOf (n value : Nat) : List Bool :=
  (List.range n).map fun i => value.testBit (n - 1 - i)

/-- The bits of each symbol, for the lengths from `maxLength + 1 - todo` on, where `next` is the
number that the first sequence of that length writes. -/
def assignFrom (lengths : List Nat) : (todo next : Nat) → List (List Bool × Nat)
  | 0, _ => []
  | todo + 1, next =>
    let n := maxLength - todo
    let symbols := symbolsOfLength lengths n
    symbols.zipIdx.map (fun e => (pathOf n (next + e.2), e.1)) ++
      assignFrom lengths todo ((next + symbols.length) * 2)

/-- The bits of each symbol, where `lengths` gives a length to the symbols from zero on and
zero to those without one. -/
def Code.assign (lengths : List Nat) : List (List Bool × Nat) := assignFrom lengths maxLength 0

/-- The canonical code of the lengths. -/
def Code.ofLengths (lengths : List Nat) : Code :=
  (Code.assign lengths).foldl (fun code e => code.put e.1 e.2) Code.empty

/-- How many sequences of the greatest length are left over, which is below zero if there are
not enough. -/
def Code.room (lengths : List Nat) : Int :=
  lengths.foldl (fun room n => if n = 0 then room else room - Nat.pow 2 (maxLength - n))
    (Nat.pow 2 maxLength : Int)

/-- The only incomplete set of lengths that is taken is a single sequence of one bit. -/
def isSingleBit (lengths : List Nat) : Bool := lengths.all (· ≤ 1)

/-- The code of symbols for which an incomplete set is taken if it is a single bit. -/
def Code.ofSymbolLengths? (lengths : List Nat) : Option Code :=
  let room := Code.room lengths
  if room = 0 ∨ (0 < room ∧ isSingleBit lengths) then some (Code.ofLengths lengths) else none

end Deflate

end Vicinity
