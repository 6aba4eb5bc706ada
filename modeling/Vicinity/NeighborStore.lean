import Vicinity.OrderedMap
import Vicinity.TableLibrary

/-!
# Neighbor stores

A `NeighborStore` holds the neighbors of subjects : a list for every subject, in the order in
which the subjects came. Absent and empty are different answers : a subject without neighbors
is there, with the empty list. Appending to a subject that is there continues its list
(`NeighborStore.append?`), and is the one way in which a store grows while a file is read.
-/

namespace Vicinity

/-- The neighbors of subjects. -/
structure NeighborStore where
  entries : OrderedMap (List Value)

/-- Why a store does not answer. -/
inductive KeyFault where
  /-- The value cannot be a key. -/
  | unhashable
  /-- There is no entry under the key. -/
  | missing (key : Value)
deriving DecidableEq

namespace NeighborStore

/-- No subjects. -/
def empty : NeighborStore := ⟨.empty⟩

instance : Inhabited NeighborStore := ⟨empty⟩

/-! ## Growing -/

/-- Continue the neighbors of a subject, which must be able to be a key. -/
def append? (s : NeighborStore) (subject : Value) (neighbors : List Value) :
    Option NeighborStore :=
  if subject.isHashable then
    some ⟨s.entries.alter subject fun before => before.getD [] ++ neighbors⟩
  else none

/-- The store of entries, the last of which counts if their keys are the same. -/
def ofList (entries : List (Value × List Value)) : Except KeyFault NeighborStore :=
  if entries.all fun e => e.1.isHashable then .ok ⟨OrderedMap.ofList entries⟩
  else .error .unhashable

/-! ## Looking up -/

/-- The subjects with their neighbors. -/
def toList (s : NeighborStore) : List (Value × List Value) := s.entries.toList

/-- The number of subjects. -/
def size (s : NeighborStore) : Nat := s.entries.size

/-- The number of pairs of a subject and a neighbor. -/
def pairCount (s : NeighborStore) : Nat :=
  s.entries.values.foldr (fun neighbors n => neighbors.length + n) 0

/-- The neighbors of an identifier, if it is a subject. -/
def get (s : NeighborStore) (id : Value) : Except KeyFault (Option (List Value)) :=
  if id.isHashable then .ok (s.entries.get? id) else .error .unhashable

/-- The neighbors of an identifier, which must be a subject. -/
def getEntry (s : NeighborStore) (id : Value) : Except KeyFault (List Value) := do
  match ← s.get id with
  | some neighbors => return neighbors
  | none => throw (.missing id)

/-- Whether an identifier is a subject. -/
def contains (s : NeighborStore) (id : Value) : Except KeyFault Bool := do
  return (← s.get id).isSome

/-- Lists are the same when their values are, one by one. -/
def sameLists (a b : List Value) : Bool := Value.Same (.list a) (.list b)

/-- Stores are equal when they have the same subjects, in any order, with the same neighbors. -/
def equal (s t : NeighborStore) : Bool :=
  s.size == t.size && s.toList.all fun e =>
    match t.entries.get? e.1 with
    | some neighbors => sameLists e.2 neighbors
    | none => false

/-! ## Other forms -/

/-- A short text about a store. -/
def summary (s : NeighborStore) : String := "NeighborStore(entries=" ++ toString s.size ++ ")"

/-- The pairs with their positions, subject by subject. -/
def pairs (s : NeighborStore) : List (Value × Nat × Value) :=
  s.toList.flatMap fun e => e.2.zipIdx.map fun n => (e.1, n.2, n.1)

/-- The columns of the pairs. -/
def columns (s : NeighborStore) : List (String × ColumnCells) :=
  [("object_id", .values (s.pairs.map fun p => p.1)),
    ("position", .positions (s.pairs.map fun p => p.2.1)),
    ("neighbor_id", .values (s.pairs.map fun p => p.2.2))]

/-- The table with one row for each pair. -/
def toFrame (s : NeighborStore) (lib : TableLibrary) : Except lib.Fault Frame :=
  lib.make s.columns

end NeighborStore

end Vicinity
