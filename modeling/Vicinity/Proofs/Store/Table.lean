import Mathlib.Data.List.Forall2
import Vicinity.Proofs.Column
import Vicinity.Proofs.Pairs

/-!
# The table of a store

A library that makes tables of columns of one kind makes a table of the pairs of a store, if its
identifiers are of one kind (`NeighborStore.toFrame_eq_ok`). The rows of an entry stand together,
one for each neighbor (`NeighborStore.AreRowsOf`), and if the rows are appended one after the other
to an empty store then each entry is restored by its own rows (`NeighborStore.ofRows?_map`). Only
entries without neighbors are lost, since they have no rows (`NeighborStore.restored_of_toFrame`).
-/

namespace Vicinity

namespace NeighborStore

/-- The subjects that have neighbors are of one kind, and so are the neighbors. No subject has more
neighbors than there are positions of 32 bits. -/
structure IsUniform (s : NeighborStore) : Prop where
  subjects : Value.AreUniform ((s.toList.filter fun e => e.2 ≠ []).map Prod.fst)
  neighbors : Value.AreUniform (s.toList.flatMap Prod.snd)
  positions : ∀ e ∈ s.toList, e.2.length ≤ 0x100000000

/-! ## Rows of entries -/

/-- Rows that stand for the neighbors of an entry, each at its position. -/
structure AreRowsOf (e : Value × List Value) (rows : List (List Value)) : Prop where
  length : rows.length = e.2.length
  row : ∀ (p : Nat) (n : Value), e.2[p]? = some n → rows[p]? = some [e.1, .int p, n]

/-- The pairs of an entry. -/
def pairsOf (e : Value × List Value) : List (Value × Nat × Value) :=
  e.2.zipIdx.map fun n => (e.1, n.2, n.1)

theorem areRowsOf_pairsOf (e : Value × List Value) : AreRowsOf e ((pairsOf e).map rowOf) where
  length := by simp [pairsOf]
  row p n h := by simp [pairsOf, rowOf, h]

theorem fst_mem_of_mem_pairs {s : NeighborStore} {p : Value × Nat × Value} (h : p ∈ s.pairs) :
    p.1 ∈ (s.toList.filter fun e => e.2 ≠ []).map Prod.fst := by
  obtain ⟨e, he, hp⟩ := List.mem_flatMap.mp h
  obtain ⟨n, hn, rfl⟩ := List.mem_map.mp hp
  have hne : e.2 ≠ [] := List.ne_nil_of_mem (List.fst_mem_of_mem_zipIdx hn)
  exact List.mem_map_of_mem (List.mem_filter.mpr ⟨he, decide_eq_true hne⟩)

theorem snd_mem_of_mem_pairs {s : NeighborStore} {p : Value × Nat × Value} (h : p ∈ s.pairs) :
    p.2.2 ∈ s.toList.flatMap Prod.snd := by
  obtain ⟨e, he, hp⟩ := List.mem_flatMap.mp h
  obtain ⟨n, hn, rfl⟩ := List.mem_map.mp hp
  exact List.mem_flatMap.mpr ⟨e, he, List.fst_mem_of_mem_zipIdx hn⟩

theorem position_lt_of_mem_pairs {s : NeighborStore} (h : s.IsUniform) {p : Value × Nat × Value}
    (hp : p ∈ s.pairs) : p.2.1 < 0x100000000 := by
  obtain ⟨e, he, hp⟩ := List.mem_flatMap.mp hp
  obtain ⟨n, hn, rfl⟩ := List.mem_map.mp hp
  exact Nat.lt_of_lt_of_le (List.snd_lt_of_mem_zipIdx hn) (h.positions e he)

/-- A store with identifiers of one kind has a table, with a row for each pair. -/
theorem toFrame_eq_ok {lib : TableLibrary} (hlib : lib.MakesColumns) {s : NeighborStore}
    (h : s.IsUniform) :
    ∃ frame, s.toFrame lib = .ok frame ∧
      frame.columns.map (·.name) = ["object_id", "position", "neighbor_id"] ∧
      frame.rows = s.pairs.map rowOf := by
  have hsubjects : Value.AreUniform (s.pairs.map fun p => p.1) :=
    h.subjects.mono (List.forall_mem_map.mpr fun _ => fst_mem_of_mem_pairs)
  have hneighbors : Value.AreUniform (s.pairs.map fun p => p.2.2) :=
    h.neighbors.mono (List.forall_mem_map.mpr fun _ => snd_mem_of_mem_pairs)
  have hpositions : ∀ n ∈ s.pairs.map (fun p => p.2.1), n < 0x100000000 :=
    List.forall_mem_map.mpr fun _ => position_lt_of_mem_pairs h
  have hplain : ∀ c ∈ s.columns, c.2.ArePlain := by
    simp only [columns, List.forall_mem_cons]
    exact ⟨.values hsubjects, .positions hpositions, .values hneighbors, by simp⟩
  have hheight : ∀ c ∈ s.columns, c.2.toValues.length = s.pairs.length := by
    simp [columns, ColumnCells.toValues]
  have hnames : (s.columns.map Prod.fst).Nodup := by
    change ["object_id", "position", "neighbor_id"].Nodup
    decide
  obtain ⟨frame, hframe, hcells⟩ := hlib s.columns hnames ⟨_, hheight⟩ hplain
  exact ⟨frame, hframe, rows_of_cells hcells⟩

/-! ## Rows that are appended -/

/-- Append the neighbor in a row to the subject in this row. -/
def appendRow? (s : NeighborStore) : List Value → Option NeighborStore
  | [subject, _, neighbor] => s.append? subject [neighbor]
  | _ => none

/-- The store that rows come to, appended one after the other. -/
def ofRows? (rows : List (List Value)) : Option NeighborStore := rows.foldlM appendRow? empty

/-- The rows of pairs are appended as they are, if their subjects can be keys. -/
theorem ofRows?_map {pairs : List (Value × Nat × Value)} (h : ∀ p ∈ pairs, p.1.isHashable) :
    ofRows? (pairs.map rowOf) = some (ofAppends (pairs.map fun p => (p.1, [p.2.2]))) := by
  suffices hfrom : ∀ s : NeighborStore, (pairs.map rowOf).foldlM appendRow? s =
      some ((pairs.map fun p => (p.1, [p.2.2])).foldl append s) from hfrom empty
  induction pairs with
  | nil => exact fun s => rfl
  | cons p pairs ih =>
    intro s
    obtain ⟨hp, hpairs⟩ := List.forall_mem_cons.mp h
    rw [List.map_cons, List.foldlM_cons, rowOf, appendRow?, append?_of_isHashable s _ hp]
    exact ih hpairs (s.append (p.1, [p.2.2]))

/-- Neighbors that are appended to one subject one by one come to one entry, if there are any. -/
theorem toList_ofAppends_each (subject : Value) (neighbors : List Value) :
    (ofAppends (neighbors.map fun n => (subject, [n]))).toList =
      if neighbors = [] then [] else [(subject, neighbors)] := by
  induction neighbors using List.reverseRecOn with
  | nil => rfl
  | append_singleton neighbors n ih =>
    rw [List.map_append, List.map_singleton, ofAppends_append_singleton, toList, append,
      OrderedMap.toList_alter, ← toList, ih]
    by_cases h : neighbors = [] <;> simp [h, OrderedMap.alterEntries, Value.Same.refl]

/-- The pairs of a store restore its entries, except those without neighbors. -/
theorem toList_ofAppends_pairs (s : NeighborStore) :
    (ofAppends (s.pairs.map fun p => (p.1, [p.2.2]))).toList =
      s.toList.filter fun e => e.2 ≠ [] := by
  have hrun : s.pairs.map (fun p => (p.1, [p.2.2])) =
      (s.toList.map fun e => e.2.map fun n => (e.1, [n])).flatten := by
    rw [pairs, List.map_flatMap, List.flatMap_def]
    refine congrArg List.flatten (List.map_congr_left fun e _ => ?_)
    have hneighbors := congrArg (List.map fun n => (e.1, [n])) (List.zipIdx_map_fst 0 e.2)
    rw [List.map_map, ← hneighbors, List.map_map]
    rfl
  have hdistinct : (s.toList.map fun e => e.2.map fun n => (e.1, [n])).Pairwise
      fun run run' => ∀ a ∈ run, ∀ b ∈ run', ¬ a.1.Same b.1 := by
    refine List.pairwise_map.mpr (s.entries.distinct.imp fun {e e'} he => ?_)
    simpa using fun _ _ _ _ => he
  rw [hrun, toList_ofAppends_flatten hdistinct, List.flatMap_map]
  simp only [toList_ofAppends_each]
  induction s.toList with
  | nil => rfl
  | cons e entries ih => by_cases he : e.2 = [] <;> simp [he, ih]

theorem ofRows?_of_isUniform {s : NeighborStore} (h : s.IsUniform) :
    ∃ t, ofRows? (s.pairs.map rowOf) = some t ∧
      t.toList = s.toList.filter fun e => e.2 ≠ [] := by
  refine ⟨_, ofRows?_map fun p hp => ?_, toList_ofAppends_pairs s⟩
  exact h.subjects.isHashable p.1 (fst_mem_of_mem_pairs hp)

/-! ## Tables -/

/-- A store whose identifiers are of one kind has a table with a row for each of its pairs, if the
library makes tables of columns of one kind. The rows of one subject stand together, in the order of
the subjects, and have the positions of its neighbors, one after the other. The store that the rows
come to, appended in their order, has the entries of the original in the same order, except those
without neighbors. So stores with the same rows differ in entries without neighbors at most. -/
theorem restored_of_toFrame {lib : TableLibrary} (hlib : lib.MakesColumns) {s : NeighborStore}
    (h : s.IsUniform) :
    ∃ frame, s.toFrame lib = .ok frame ∧
      frame.columns.map (·.name) = ["object_id", "position", "neighbor_id"] ∧
      frame.rows.length = s.pairCount ∧
      (∃ blocks, frame.rows = blocks.flatten ∧ List.Forall₂ AreRowsOf s.toList blocks) ∧
      (∃ t, ofRows? frame.rows = some t ∧ t.toList = s.toList.filter fun e => e.2 ≠ []) ∧
      ∀ s' : NeighborStore, s'.IsUniform → ∀ frame', s'.toFrame lib = .ok frame' →
        frame'.rows = frame.rows →
        (s'.toList.filter fun e => e.2 ≠ []) = s.toList.filter fun e => e.2 ≠ [] := by
  obtain ⟨frame, hframe, hnames, hrows⟩ := toFrame_eq_ok hlib h
  obtain ⟨t, ht, hentries⟩ := ofRows?_of_isUniform h
  refine ⟨frame, hframe, hnames, ?length, ?blocks, ⟨t, hrows ▸ ht, hentries⟩,
    fun s' h' frame' hframe' hsame => ?determined⟩
  case length => rw [hrows, List.length_map, length_pairs]
  case blocks =>
    refine ⟨s.toList.map fun e => (pairsOf e).map rowOf, ?_, ?_⟩
    · rw [hrows, pairs, List.map_flatMap, List.flatMap_def]
      rfl
    · exact List.forall₂_map_right_iff.mpr
        (List.forall₂_same.mpr fun e _ => areRowsOf_pairsOf e)
  case determined =>
    obtain ⟨frame'', hframe'', -, hrows'⟩ := toFrame_eq_ok hlib h'
    obtain rfl : frame' = frame'' := Except.ok.inj (hframe'.symm.trans hframe'')
    obtain ⟨t', ht', hentries'⟩ := ofRows?_of_isUniform h'
    have hpairs : s'.pairs.map rowOf = s.pairs.map rowOf := by rw [← hrows', hsame, hrows]
    obtain rfl : t' = t := by
      rw [hpairs] at ht'
      exact Option.some.inj (ht'.symm.trans ht)
    rw [← hentries', hentries]

/-- Neighbors in whole numbers of subjects in texts, and a subject of another kind without any. -/
def listedStore : NeighborStore :=
  ⟨[(.text "b", [.int 1, .int 2, .int 1]), (.int 7, []), (.text "a", [.int 2])], by decide +kernel⟩

/-- The same neighbors, and another subject without any at another place. -/
def relistedStore : NeighborStore :=
  ⟨[(.text "b", [.int 1, .int 2, .int 1]), (.text "a", [.int 2]), (.text "", [])],
    by decide +kernel⟩

theorem restored_of_toFrame_listed :
    TableLibrary.standard.MakesColumns ∧ listedStore.IsUniform ∧ relistedStore.IsUniform ∧
      ∃ frame frame', listedStore.toFrame .standard = .ok frame ∧
        relistedStore.toFrame .standard = .ok frame' ∧
        frame'.rows = frame.rows ∧ frame.rows.length = 4 ∧
        (∃ t, ofRows? frame.rows = some t ∧
          t.toList = [(.text "b", [.int 1, .int 2, .int 1]), (.text "a", [.int 2])]) ∧
        (relistedStore.toList.filter fun e => e.2 ≠ []) =
          listedStore.toList.filter fun e => e.2 ≠ [] := by
  have hlib := TableLibrary.standard_makesColumns
  have h : listedStore.IsUniform :=
    ⟨⟨.text, by decide, by decide⟩, ⟨.integer, by decide, by decide⟩, by decide⟩
  have h' : relistedStore.IsUniform :=
    ⟨⟨.text, by decide, by decide⟩, ⟨.integer, by decide, by decide⟩, by decide⟩
  obtain ⟨frame, hframe, -, hlength, -, ⟨t, ht, hentries⟩, hdetermined⟩ :=
    restored_of_toFrame hlib h
  obtain ⟨frame', hframe', -⟩ := restored_of_toFrame hlib h'
  have hsame : frame'.rows = frame.rows := by
    cases hframe
    cases hframe'
    rfl
  exact ⟨hlib, h, h', frame, frame', hframe, hframe', hsame, hlength, ⟨t, ht, hentries⟩,
    hdetermined _ h' frame' hframe' hsame⟩

end NeighborStore

end Vicinity
