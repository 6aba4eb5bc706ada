import Vicinity.Proofs.Appends

/-!
# Stores one after the other

A store can be continued with the entries of another one (`NeighborStore.merge`). A subject has
what it has in the first store and then what it has in the second (`get?_merge`), and the subjects
of the second store that are new stand behind those of the first (`keys_merge`). Keys and answers
are all there is to a store, so two runs of appends, one after the other, come to the stores of both
(`ofAppends_append`), and it makes no difference whether a store grows before it is merged or after
(`merge_append`).
-/

namespace Vicinity

/-- The first spellings of two lists : those of the first one, and those of the second one that
mean the same as none of the first. -/
theorem Value.firsts_append (ks ls : List Value) :
    firsts (ks ++ ls) = firsts ks ++ (firsts ls).filter fun l => ¬ ∃ k ∈ ks, k.Same l := by
  induction ks with
  | nil =>
    rw [List.nil_append, firsts, List.nil_append]
    exact (List.filter_eq_self.mpr (by simp)).symm
  | cons k ks ih =>
    rw [List.cons_append, firsts, firsts, ih, List.filter_append, List.filter_filter,
      List.cons_append]
    refine congrArg (k :: _ ++ ·) (List.filter_congr fun l _ => ?_)
    simp

namespace NeighborStore

/-! ## Runs one after the other -/

/-- A subject has the neighbors of the first run and then those of the second. -/
theorem get?_ofAppends_append (run run' : List (Value × List Value)) (x : Value) :
    (ofAppends (run ++ run')).entries.get? x =
      ((ofAppends run).entries.get? x).merge (· ++ ·) ((ofAppends run').entries.get? x) := by
  have hnil {run : List (Value × List Value)} (h : ¬ ∃ a ∈ run, a.1.Same x) :
      (run.filter fun a => a.1.Same x) = [] :=
    List.filter_eq_nil_iff.mpr fun a ha hs => h ⟨a, ha, of_decide_eq_true hs⟩
  have hsplit : (∃ a ∈ run ++ run', a.1.Same x) ↔
      (∃ a ∈ run, a.1.Same x) ∨ ∃ a ∈ run', a.1.Same x := by
    simp only [List.mem_append, or_and_right, exists_or]
  rw [get?_ofAppends, get?_ofAppends, get?_ofAppends, if_congr hsplit rfl rfl,
    List.filter_append, List.flatMap_append]
  by_cases h : ∃ a ∈ run, a.1.Same x <;> by_cases h' : ∃ a ∈ run', a.1.Same x
  · simp only [h, h', or_self, if_true, Option.merge]
  · simp only [h, h', hnil h', or_false, if_true, if_false, Option.merge, List.flatMap_nil,
      List.append_nil]
  · simp only [h, h', hnil h, or_true, if_true, if_false, Option.merge, List.flatMap_nil,
      List.nil_append]
  · simp only [h, h', or_self, if_false, Option.merge]

/-- The subjects of the first run come before the new ones of the second. -/
theorem keys_ofAppends_append (run run' : List (Value × List Value)) :
    (ofAppends (run ++ run')).entries.keys = (ofAppends run).entries.keys ++
      (ofAppends run').entries.keys.filter fun k =>
        ¬ ∃ j ∈ (ofAppends run).entries.keys, j.Same k := by
  simp only [keys_ofAppends, List.map_append, Value.firsts_append, Value.exists_mem_firsts_iff]

/-! ## Merging -/

/-- A store continued with the entries of another one. -/
def merge (s t : NeighborStore) : NeighborStore := ofAppends (s.toList ++ t.toList)

/-- A subject has its neighbors in the first store and then those in the second. -/
theorem get?_merge (s t : NeighborStore) (x : Value) :
    (s.merge t).entries.get? x = (s.entries.get? x).merge (· ++ ·) (t.entries.get? x) := by
  rw [merge, get?_ofAppends_append, ofAppends_toList, ofAppends_toList]

/-- The subjects of the first store come before the new ones of the second. -/
theorem keys_merge (s t : NeighborStore) :
    (s.merge t).entries.keys =
      s.entries.keys ++ t.entries.keys.filter fun k => ¬ ∃ j ∈ s.entries.keys, j.Same k := by
  rw [merge, keys_ofAppends_append, ofAppends_toList, ofAppends_toList]

theorem ofAppends_append (run run' : List (Value × List Value)) :
    ofAppends (run ++ run') = (ofAppends run).merge (ofAppends run') := by
  have hkeys := (keys_ofAppends_append run run').trans (keys_merge _ _).symm
  have hget (x : Value) := (get?_ofAppends_append run run' x).trans (get?_merge _ _ x).symm
  exact congrArg mk (OrderedMap.ext_get? hkeys hget)

/-- A store may grow before it is merged or after. -/
theorem merge_append (s t : NeighborStore) (a : Value × List Value) :
    s.merge (t.append a) = (s.merge t).append a := by
  calc s.merge (t.append a)
    _ = (ofAppends s.toList).merge (ofAppends (t.toList ++ [a])) := by
      rw [ofAppends_append_singleton, ofAppends_toList, ofAppends_toList]
    _ = ofAppends (s.toList ++ t.toList ++ [a]) := by rw [← ofAppends_append, List.append_assoc]
    _ = (s.merge t).append a := ofAppends_append_singleton _ a

theorem merge_empty (s : NeighborStore) : s.merge empty = s := by
  have hnil : empty.toList = [] := rfl
  rw [merge, hnil, List.append_nil, ofAppends_toList]

/-- A subject of either store is a subject of both together. -/
theorem contains_merge (s t : NeighborStore) (x : Value) :
    (s.merge t).contains x = do return (← s.contains x) || (← t.contains x) := by
  simp only [contains, get, get?_merge]
  by_cases hx : x.isHashable
  · simp only [if_pos hx]
    cases s.entries.get? x <;> cases t.entries.get? x <;> rfl
  · simp only [if_neg hx]
    rfl

end NeighborStore

end Vicinity
