import Mathlib.Data.List.Perm.Subperm
import Vicinity.Proofs.Appends

/-!
# What a store answers

A store answers for identifiers that can be keys, in three forms that agree : with the neighbors if
there are any to tell (`NeighborStore.get`), with whether there are (`contains`), and with the
neighbors or the reason why there are none (`getEntry`). For other values it answers in none of them
(`answers_of_not_isHashable`). Identifiers that mean the same are answered alike (`get_congr`). A
store that knows all subjects of another one has at least as many (`size_le_of_get?`).
-/

namespace Vicinity

namespace NeighborStore

variable (s : NeighborStore) {x x' : Value} {neighbors : List Value}

/-! ## Three forms of an answer -/

theorem get_of_isHashable (hx : x.isHashable) : s.get x = .ok (s.entries.get? x) := if_pos hx

theorem get_eq_ok_some_iff :
    s.get x = .ok (some neighbors) ↔ x.isHashable ∧ s.entries.get? x = some neighbors := by
  rw [get]
  by_cases hx : x.isHashable <;> simp [hx]

theorem answers_of_some (hx : x.isHashable) (h : s.entries.get? x = some neighbors) :
    s.get x = .ok (some neighbors) ∧ s.contains x = .ok true ∧ s.getEntry x = .ok neighbors := by
  have hget : s.get x = .ok (some neighbors) := s.get_eq_ok_some_iff.mpr ⟨hx, h⟩
  refine ⟨hget, ?_, ?_⟩
  · rw [contains, hget]
    rfl
  · rw [getEntry, hget]
    rfl

theorem answers_of_none (hx : x.isHashable) (h : s.entries.get? x = none) :
    s.get x = .ok none ∧ s.contains x = .ok false ∧ s.getEntry x = .error (.missing x) := by
  have hget : s.get x = .ok none := by rw [s.get_of_isHashable hx, h]
  refine ⟨hget, ?_, ?_⟩
  · rw [contains, hget]
    rfl
  · rw [getEntry, hget]
    rfl

theorem answers_of_not_isHashable (hx : x.isHashable = false) :
    s.get x = .error .unhashable ∧ s.contains x = .error .unhashable ∧
      s.getEntry x = .error .unhashable := by
  have hget : s.get x = .error .unhashable := by simp [get, hx]
  refine ⟨hget, ?_, ?_⟩
  · rw [contains, hget]
    rfl
  · rw [getEntry, hget]
    rfl

/-! ## Spellings -/

theorem get_congr (h : x.Same x') : s.get x = s.get x' := by
  rw [get, get, Value.isHashable_eq_of_same h, s.entries.get?_congr h]

/-! ## Sizes -/

/-- A store that knows all subjects of another one is at least as large. -/
theorem size_le_of_get? {s t : NeighborStore}
    (h : ∀ x, (s.entries.get? x).isSome → (t.entries.get? x).isSome) : s.size ≤ t.size := by
  have hnodup : (s.entries.keys.map Value.canonical).Nodup :=
    List.pairwise_map.mpr s.entries.pairwise_keys
  have hsubset : s.entries.keys.map Value.canonical ⊆ t.entries.keys.map Value.canonical := by
    intro c hc
    obtain ⟨k, hk, rfl⟩ := List.mem_map.mp hc
    have hsome := h k ((s.entries.isSome_get?_iff k).mpr ⟨k, hk, .refl k⟩)
    obtain ⟨j, hj, hsame⟩ := (t.entries.isSome_get?_iff k).mp hsome
    exact List.mem_map.mpr ⟨j, hj, hsame⟩
  have hle := (List.subperm_of_subset hnodup hsubset).length_le
  rwa [List.length_map, List.length_map, ← size_eq_length_keys, ← size_eq_length_keys] at hle

end NeighborStore

end Vicinity
