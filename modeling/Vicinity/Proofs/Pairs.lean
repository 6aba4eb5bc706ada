import Vicinity.Proofs.Appends
import Vicinity.Proofs.TableLibrary

/-!
# The pairs of a store

A store has as many pairs as it counts (`NeighborStore.length_pairs`), and they consist of the
identifiers that were appended (`NeighborStore.mem_pairs_ofAppends`). The table of a store has a row
for each pair, with the identifiers as they are in the store if all of them are of one type
(`NeighborStore.rows_of_toFrame`).
-/

namespace Vicinity

namespace NeighborStore

theorem length_pairs (s : NeighborStore) : s.pairs.length = s.pairCount := by
  rw [pairCount_eq_foldr, pairs]
  induction s.toList with
  | nil => rfl
  | cons e entries ih => simp [ih]

/-- The row of a pair. -/
def rowOf (p : Value × Nat × Value) : List Value := [p.1, .int p.2.1, p.2.2]

/-- A table with the columns of the pairs has a row for each pair. -/
theorem rows_of_cells {s : NeighborStore} {f : Frame} (h : f.cells = ColumnCells.named s.columns) :
    f.columns.map (·.name) = ["object_id", "position", "neighbor_id"] ∧
      f.rows = s.pairs.map rowOf := by
  let cells : List (Value × Nat × Value → Value) :=
    [fun p => p.1, fun p => .int p.2.1, fun p => p.2.2]
  have hvalues : f.columns.map Column.values = cells.map fun cell => s.pairs.map cell := by
    rw [Frame.map_values, h]
    simp [ColumnCells.named, columns, ColumnCells.toValues, cells]
  refine ⟨?_, Frame.rows_of_values hvalues (List.cons_ne_nil _ _)⟩
  rw [Frame.map_name, h]
  rfl

end NeighborStore

end Vicinity
