import Mathlib.Data.List.Basic
import Mathlib.Data.List.Induction
import Vicinity.NeighborStore

/-!
# Runs of appends

A store grows by appends alone. `NeighborStore.ofAppends` is the store that a run of appends to
the empty store comes to, and two statements say all about it : its keys are the subjects of the
run without those that mean the same as an earlier one (`keys_ofAppends`), and the neighbors of a
subject are those of all appends under a subject that means the same, in the order of the run
(`get?_ofAppends`). The entries of a store are a run that comes to this store
(`ofAppends_toList`). Every neighbor that is appended is one pair more (`pairCount_ofAppends`).
-/

namespace Vicinity

/-! ## First spellings -/

namespace Value

/-- The values that mean the same as none before them. -/
def firsts : List Value → List Value
  | [] => []
  | k :: rest => k :: (firsts rest).filter fun j => ¬ k.Same j

theorem firsts_append_singleton (k : Value) (ks : List Value) :
    firsts (ks ++ [k]) = if ∃ j ∈ ks, j.Same k then firsts ks else firsts ks ++ [k] := by
  induction ks with
  | nil => simp [firsts]
  | cons j ks ih =>
    rw [List.cons_append, firsts, ih]
    by_cases h : ∃ i ∈ ks, i.Same k
    · have h' : ∃ i ∈ j :: ks, i.Same k := by
        obtain ⟨i, hi, hs⟩ := h
        exact ⟨i, List.mem_cons_of_mem _ hi, hs⟩
      rw [if_pos h, if_pos h', firsts]
    · rw [if_neg h, List.filter_append]
      by_cases hj : j.Same k
      · rw [if_pos ⟨j, List.mem_cons_self, hj⟩]
        simp [firsts, hj]
      · have h' : ¬ ∃ i ∈ j :: ks, i.Same k := by
          rintro ⟨i, hi, hs⟩
          rcases List.mem_cons.mp hi with rfl | hi
          · exact hj hs
          · exact h ⟨i, hi, hs⟩
        rw [if_neg h']
        simp [firsts, hj]

theorem exists_mem_firsts_iff (ks : List Value) (k : Value) :
    (∃ j ∈ firsts ks, j.Same k) ↔ ∃ j ∈ ks, j.Same k := by
  induction ks with
  | nil => rfl
  | cons i ks ih =>
    simp only [firsts, List.mem_cons, or_and_right, exists_or, exists_eq_left, ← ih]
    by_cases hi : i.Same k
    · simp only [hi, true_or]
    · -- what means the same as `k` is not what `i` stands for
      simp only [hi, false_or, List.mem_filter, decide_eq_true_eq, and_assoc]
      exact ⟨fun ⟨j, hj, _, hs⟩ => ⟨j, hj, hs⟩,
        fun ⟨j, hj, hs⟩ => ⟨j, hj, fun h => hi (h.trans hs), hs⟩⟩

/-- Which values of a list mean the same as none before them is a question for each of them of the
values that mean the same. -/
theorem mem_firsts_iff (ks : List Value) (k : Value) :
    k ∈ firsts ks ↔ (ks.filter fun j => j.Same k).head? = some k := by
  induction ks with
  | nil => simp [firsts]
  | cons j ks ih =>
    rw [firsts, List.mem_cons, List.mem_filter, ih, List.filter_cons]
    by_cases hj : j.Same k
    · simp [hj, eq_comm]
    · have hne : k ≠ j := by
        rintro rfl
        exact hj (.refl k)
      simp [hj, hne]

theorem mem_of_mem_firsts {ks : List Value} {k : Value} (h : k ∈ firsts ks) : k ∈ ks :=
  (List.mem_filter.mp (List.mem_of_mem_head? ((mem_firsts_iff ks k).mp h))).1

theorem length_firsts_le (ks : List Value) : (firsts ks).length ≤ ks.length := by
  induction ks with
  | nil => exact Nat.le_refl _
  | cons k ks ih => exact Nat.succ_le_succ (Nat.le_trans (List.length_filter_le _ _) ih)

end Value

/-! ## One change -/

namespace OrderedMap

variable {β : Type}

theorem map_fst_alterEntries (k : Value) (f : Option β → β) :
    ∀ entries : List (Value × β),
      (alterEntries k f entries).map Prod.fst =
        if ∃ e ∈ entries, e.1.Same k then entries.map Prod.fst else entries.map Prod.fst ++ [k]
  | [] => by simp [alterEntries]
  | (k', v) :: rest => by
    rw [alterEntries]
    by_cases hk : k'.Same k
    · rw [if_pos hk, if_pos ⟨(k', v), List.mem_cons_self, hk⟩]
      simp
    · rw [if_neg hk, List.map_cons, map_fst_alterEntries k f rest]
      by_cases h : ∃ e ∈ rest, e.1.Same k
      · obtain ⟨e, he, hs⟩ := h
        rw [if_pos ⟨e, he, hs⟩, if_pos ⟨e, List.mem_cons_of_mem _ he, hs⟩, List.map_cons]
      · have h' : ¬ ∃ e ∈ (k', v) :: rest, e.1.Same k := by
          rintro ⟨e, he, hs⟩
          rcases List.mem_cons.mp he with rfl | he
          · exact hk hs
          · exact h ⟨e, he, hs⟩
        rw [if_neg h, if_neg h', List.map_cons, List.cons_append]

/-- A key is there if and only if one that means the same is among the keys. -/
theorem isSome_get?_iff (m : OrderedMap β) (k : Value) :
    (m.get? k).isSome ↔ ∃ j ∈ m.keys, j.Same k := by
  simp [get?, keys]

/-- A change adds a key at the end unless one that means the same is there. -/
theorem keys_alter (m : OrderedMap β) (k : Value) (f : Option β → β) :
    (m.alter k f).keys = if (m.get? k).isSome then m.keys else m.keys ++ [k] := by
  have h : (m.get? k).isSome ↔ ∃ e ∈ m.toList, e.1.Same k := by
    rw [isSome_get?_iff]
    simp [keys]
  rw [keys, toList_alter, map_fst_alterEntries]
  by_cases hk : ∃ e ∈ m.toList, e.1.Same k
  · rw [if_pos hk, if_pos (h.mpr hk), keys]
  · rw [if_neg hk, if_neg (mt h.mp hk), keys]

/-- Changes under some keys add those of them that mean the same as none before them. -/
theorem keys_foldl_alter {α : Type} (key : α → Value) (f : α → Option β → β) (run : List α) :
    (run.foldl (fun m a => m.alter (key a) (f a)) (empty : OrderedMap β)).keys =
      Value.firsts (run.map key) := by
  induction run using List.reverseRecOn with
  | nil => rfl
  | append_singleton run a ih =>
    rw [List.foldl_append, List.foldl_cons, List.foldl_nil, keys_alter, List.map_append,
      List.map_singleton, Value.firsts_append_singleton]
    refine if_congr ?_ ih (by rw [ih])
    rw [isSome_get?_iff, ih, Value.exists_mem_firsts_iff]

/-- A change leaves alone what stands before the key. -/
theorem alterEntries_append {k : Value} {front : List (Value × β)}
    (h : ∀ e ∈ front, ¬ e.1.Same k) (f : Option β → β) (entries : List (Value × β)) :
    alterEntries k f (front ++ entries) = front ++ alterEntries k f entries := by
  induction front with
  | nil => rfl
  | cons e rest ih =>
    obtain ⟨hk, hrest⟩ := List.forall_mem_cons.mp h
    rw [List.cons_append, alterEntries, if_neg hk, ih hrest, List.cons_append]

/-- A key that is not there is added at the end. -/
theorem alterEntries_of_absent {k : Value} {entries : List (Value × β)}
    (h : ∀ e ∈ entries, ¬ e.1.Same k) (f : Option β → β) :
    alterEntries k f entries = entries ++ [(k, f none)] := by
  simpa [alterEntries] using alterEntries_append h f []

/-- No two keys mean the same. -/
theorem pairwise_keys (m : OrderedMap β) : m.keys.Pairwise fun a b => ¬ a.Same b :=
  List.pairwise_map.mpr m.distinct

/-- The entries are the keys with what is stored under them. -/
theorem mem_toList_iff (m : OrderedMap β) (e : Value × β) :
    e ∈ m.toList ↔ e.1 ∈ m.keys ∧ m.get? e.1 = some e.2 := by
  have hget : ∀ e ∈ m.toList, m.get? e.1 = some e.2 := by
    obtain ⟨entries, hdistinct⟩ := m
    intro e he
    obtain ⟨front, rest, rfl⟩ := List.append_of_mem he
    have hfront : ∀ a ∈ front, ¬ a.1.Same e.1 := fun a ha =>
      (List.pairwise_append.mp hdistinct).2.2 a ha e List.mem_cons_self
    have hnone : front.find? (fun a => decide (a.1.Same e.1)) = none :=
      List.find?_eq_none.mpr fun a ha => by simp [hfront a ha]
    simp [get?, List.find?_append, hnone, Value.Same.refl]
  constructor
  · exact fun he => ⟨List.mem_map_of_mem he, hget e he⟩
  · rintro ⟨hkey, hvalue⟩
    obtain ⟨e', he', hk⟩ := List.mem_map.mp hkey
    have hv : e'.2 = e.2 := Option.some.inj ((hget e' he').symm.trans (hk ▸ hvalue))
    rwa [← Prod.ext hk hv]

/-- The entries are the keys, in their order, with what is stored under them. -/
theorem toList_eq_filterMap (m : OrderedMap β) :
    m.toList = m.keys.filterMap fun k => (m.get? k).map (Prod.mk k) := by
  have hentry : ∀ e ∈ m.toList, (m.get? e.1).map (Prod.mk e.1) = some e := by
    intro e he
    rw [((m.mem_toList_iff e).mp he).2, Option.map_some]
  rw [keys, List.filterMap_map]
  exact (List.map_id _).symm.trans (List.filterMap_eq_map_iff_forall_eq_some.mpr hentry).symm

/-- A map is told by its entries. -/
theorem ext_toList {m m' : OrderedMap β} (h : m.toList = m'.toList) : m = m' := by
  cases m
  cases m'
  cases h
  rfl

/-- A map is told by its keys and its answers. -/
theorem ext_get? {m m' : OrderedMap β} (hkeys : m.keys = m'.keys)
    (hget : ∀ k, m.get? k = m'.get? k) : m = m' :=
  ext_toList (by rw [toList_eq_filterMap, toList_eq_filterMap, hkeys, funext hget])

/-- Maps with the same keys, in any order, have the same entries if they answer the same. -/
theorem toList_perm {m m' : OrderedMap β} (hkeys : m'.keys.Perm m.keys)
    (hget : ∀ k, m'.get? k = m.get? k) : m'.toList.Perm m.toList := by
  have hnodup (m : OrderedMap β) : m.toList.Nodup :=
    m.distinct.imp fun {a b} h (heq : a = b) => h (heq ▸ .refl a.1)
  refine (List.perm_ext_iff_of_nodup (hnodup m') (hnodup m)).mpr fun e => ?_
  rw [mem_toList_iff, mem_toList_iff, hkeys.mem_iff, hget]

end OrderedMap

/-! ## Runs -/

namespace NeighborStore

/-- Continue the neighbors of a subject. -/
def append (s : NeighborStore) (a : Value × List Value) : NeighborStore :=
  ⟨s.entries.alter a.1 fun before => before.getD [] ++ a.2⟩

theorem append?_of_isHashable (s : NeighborStore) {subject : Value} (neighbors : List Value)
    (h : subject.isHashable) : s.append? subject neighbors = some (s.append (subject, neighbors)) :=
  if_pos h

/-- An append continues what is stored for its subject, in any spelling, and nothing else. -/
theorem get?_append (s : NeighborStore) (a : Value × List Value) (x : Value) :
    (s.append a).entries.get? x =
      if a.1.Same x then some ((s.entries.get? x).getD [] ++ a.2) else s.entries.get? x := by
  rw [append, OrderedMap.get?_alter]
  split
  · rename_i hx
    rw [s.entries.get?_congr hx]
  · rfl

/-- The store that a run of appends comes to. -/
def ofAppends (run : List (Value × List Value)) : NeighborStore := run.foldl append empty

theorem ofAppends_append_singleton (run : List (Value × List Value)) (a : Value × List Value) :
    ofAppends (run ++ [a]) = (ofAppends run).append a := by
  rw [ofAppends, List.foldl_append]
  rfl

/-- A subject has the neighbors of all appends under subjects that mean the same. -/
theorem get?_ofAppends (run : List (Value × List Value)) (x : Value) :
    (ofAppends run).entries.get? x =
      if ∃ a ∈ run, a.1.Same x then
        some ((run.filter fun a => a.1.Same x).flatMap Prod.snd)
      else none := by
  induction run using List.reverseRecOn with
  | nil => simp [ofAppends, empty]
  | append_singleton run a ih =>
    rw [ofAppends_append_singleton, get?_append, List.filter_append, List.flatMap_append]
    by_cases hx : a.1.Same x
    · -- The append is under `x`, so it continues what is stored under `x`.
      have hmem : ∃ b ∈ run ++ [a], b.1.Same x :=
        ⟨a, List.mem_append_right _ List.mem_cons_self, hx⟩
      rw [if_pos hx, ih, if_pos hmem]
      by_cases h : ∃ b ∈ run, b.1.Same x
      · simp [h, hx]
      · have hnil : (run.filter fun b => b.1.Same x) = [] :=
          List.filter_eq_nil_iff.mpr fun b hb hs => h ⟨b, hb, of_decide_eq_true hs⟩
        simp [h, hx, hnil]
    · have hiff : (∃ b ∈ run ++ [a], b.1.Same x) ↔ ∃ b ∈ run, b.1.Same x := by
        refine ⟨fun ⟨b, hb, hs⟩ => ?_, fun ⟨b, hb, hs⟩ => ⟨b, List.mem_append_left _ hb, hs⟩⟩
        rcases List.mem_append.mp hb with hb | hb
        · exact ⟨b, hb, hs⟩
        · exact absurd (List.mem_singleton.mp hb ▸ hs) hx
      rw [if_neg hx, ih, if_congr hiff rfl rfl]
      simp [hx]

/-- The subjects stand where they came first, as they were spelled there. -/
theorem keys_ofAppends (run : List (Value × List Value)) :
    (ofAppends run).entries.keys = Value.firsts (run.map Prod.fst) := by
  let continued (a : Value × List Value) (before : Option (List Value)) := before.getD [] ++ a.2
  have hentries : run.foldl (fun m a => m.alter a.1 (continued a)) .empty =
      (ofAppends run).entries :=
    List.foldl_hom entries fun _ _ => rfl
  rw [← hentries]
  exact OrderedMap.keys_foldl_alter Prod.fst continued run

/-- Appends under different subjects are the entries of the store they come to. -/
theorem toList_ofAppends {run : List (Value × List Value)}
    (h : run.Pairwise fun a b => ¬ a.1.Same b.1) : (ofAppends run).toList = run := by
  induction run using List.reverseRecOn with
  | nil => rfl
  | append_singleton run a ih =>
    obtain ⟨hrun, -, hlast⟩ := List.pairwise_append.mp h
    have habsent : ∀ e ∈ (ofAppends run).entries.toList, ¬ e.1.Same a.1 := by
      intro e he
      exact hlast e (ih hrun ▸ he) a List.mem_cons_self
    rw [ofAppends_append_singleton, toList, append, OrderedMap.toList_alter,
      OrderedMap.alterEntries_of_absent habsent, ← toList, ih hrun]
    rfl

/-- Appends under subjects that are new come to entries of their own. -/
theorem toList_ofAppends_append {run run' : List (Value × List Value)}
    (h : ∀ a ∈ run, ∀ b ∈ run', ¬ a.1.Same b.1) :
    (ofAppends (run ++ run')).toList = (ofAppends run).toList ++ (ofAppends run').toList := by
  induction run' using List.reverseRecOn with
  | nil => simp [ofAppends, empty, toList]
  | append_singleton run' b ih =>
    have habsent : ∀ e ∈ (ofAppends run).entries.toList, ¬ e.1.Same b.1 := by
      intro e he hs
      have hkey : ∃ k ∈ (ofAppends run).entries.keys, k.Same b.1 :=
        ⟨e.1, List.mem_map_of_mem he, hs⟩
      rw [keys_ofAppends, Value.exists_mem_firsts_iff] at hkey
      obtain ⟨k, hk, hs⟩ := hkey
      obtain ⟨a, ha, rfl⟩ := List.mem_map.mp hk
      exact h a ha b (List.mem_append_right _ List.mem_cons_self) hs
    have hrun' := ih fun a ha b hb => h a ha b (List.mem_append_left _ hb)
    rw [← List.append_assoc, ofAppends_append_singleton, ofAppends_append_singleton, toList,
      append, OrderedMap.toList_alter, ← toList, hrun', toList,
      OrderedMap.alterEntries_append habsent]
    rfl

/-- Runs without a common subject come to their entries one after the other. -/
theorem toList_ofAppends_flatten {runs : List (List (Value × List Value))}
    (h : runs.Pairwise fun run run' => ∀ a ∈ run, ∀ b ∈ run', ¬ a.1.Same b.1) :
    (ofAppends runs.flatten).toList = runs.flatMap fun run => (ofAppends run).toList := by
  induction runs with
  | nil => rfl
  | cons run runs ih =>
    obtain ⟨hrun, hruns⟩ := List.pairwise_cons.mp h
    rw [List.flatten_cons, toList_ofAppends_append, ih hruns, List.flatMap_cons]
    intro a ha b hb
    obtain ⟨run', hrun', hb⟩ := List.mem_flatten.mp hb
    exact hrun run' hrun' a ha b hb

/-- The entries of a store, appended one after the other, come to the store. -/
theorem ofAppends_toList (s : NeighborStore) : ofAppends s.toList = s :=
  congrArg mk (OrderedMap.ext_toList (toList_ofAppends s.entries.distinct))

/-! ## Sizes -/

theorem size_eq_length_keys (s : NeighborStore) : s.size = s.entries.keys.length := by
  rw [size, OrderedMap.size, OrderedMap.keys, List.length_map]

/-- There are at most as many subjects as appends. -/
theorem size_ofAppends_le (run : List (Value × List Value)) :
    (ofAppends run).size ≤ run.length := by
  have hle := Value.length_firsts_le (run.map Prod.fst)
  rwa [size_eq_length_keys, keys_ofAppends, ← List.length_map Prod.fst]

theorem pairCount_eq_foldr (s : NeighborStore) :
    s.pairCount = s.toList.foldr (fun e n => e.2.length + n) 0 := by
  rw [pairCount, OrderedMap.values, List.foldr_map]
  rfl

/-- Neighbors that continue an entry, or are a new one, are as many pairs more. -/
theorem foldr_length_alterEntries (subject : Value) (neighbors : List Value) :
    ∀ entries : List (Value × List Value),
      (OrderedMap.alterEntries subject (fun before => before.getD [] ++ neighbors) entries).foldr
          (fun e n => e.2.length + n) 0 =
        entries.foldr (fun e n => e.2.length + n) 0 + neighbors.length
  | [] => by simp [OrderedMap.alterEntries]
  | (k, before) :: rest => by
    rw [OrderedMap.alterEntries]
    split
    · simp only [List.foldr_cons, Option.getD_some, List.length_append]
      omega
    · simp only [List.foldr_cons, foldr_length_alterEntries subject neighbors rest]
      omega

theorem pairCount_append (s : NeighborStore) (a : Value × List Value) :
    (s.append a).pairCount = s.pairCount + a.2.length := by
  rw [pairCount_eq_foldr, pairCount_eq_foldr]
  exact foldr_length_alterEntries a.1 a.2 s.toList

theorem pairCount_ofAppends (run : List (Value × List Value)) :
    (ofAppends run).pairCount = (run.flatMap Prod.snd).length := by
  induction run using List.reverseRecOn with
  | nil => rfl
  | append_singleton run a ih =>
    rw [ofAppends_append_singleton, pairCount_append, ih, List.flatMap_append, List.length_append,
      List.flatMap_singleton]

end NeighborStore

end Vicinity
