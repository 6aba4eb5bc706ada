import Mathlib.Data.List.Sort
import Vicinity.Proofs.Index.Build
import Vicinity.Proofs.Load.Store
import Vicinity.Proofs.Load.Warnings

/-!
# Lines of different subjects

Lines of different subjects do not know of each other. What is stored of an object is a matter of
the lines that are about it, in their order, so lines can stand in any order in which those of
one subject stand as before (`LabelIndex.IsReordering`) : the lines about an object are then the
same (`IsReordering.filter_map_fst`). Counts do not depend on an order, and a warning only on the
number of its line.

Shards are parts of a file, each with all lines of its subjects (`LabelIndex.IsSharding`). One
after the other they are a reordering of the file (`IsSharding.isReordering`), and their stores
have no subject in common, so the union of these is the store of the file.
-/

namespace Vicinity

/-! ## Other orders -/

namespace LabelIndex

variable (index : LabelIndex)

/-- Whether the first tokens of two lines belong to the same object. -/
def ShareSubject (line line' : String) : Prop :=
  ∃ x, index.IsSubject x line ∧ index.IsSubject x line'

instance (line line' : String) : Decidable (index.ShareSubject line line') :=
  match h : index.subject? line with
  | none => isFalse fun ⟨x, ⟨s, hs, _⟩, _⟩ => by simp [h] at hs
  | some s =>
    decidable_of_iff (index.IsSubject s line')
      ⟨fun h' => ⟨s, ⟨s, h, .refl s⟩, h'⟩, fun ⟨x, ⟨t, ht, hx⟩, u, hu, hx'⟩ =>
        ⟨u, hu, by simp_all [Value.Same]⟩⟩

/-- Whether `moved` are the lines, with the numbers they had, in an order that keeps the lines of
each subject as they were. -/
structure IsReordering (lines : List String) (moved : List (String × Nat)) : Prop where
  perm : moved.Perm (lines.zipIdx 1)
  inOrder : moved.Pairwise fun a b => index.ShareSubject a.1 b.1 → a.2 < b.2

/-- Whether `shards` are parts of the lines, with the numbers they had, each with all lines of its
subjects, as they were. -/
structure IsSharding (lines : List String) (shards : List (List (String × Nat))) : Prop where
  perm : shards.flatten.Perm (lines.zipIdx 1)
  inOrder : ∀ shard ∈ shards, shard.Pairwise fun a b => index.ShareSubject a.1 b.1 → a.2 < b.2
  apart : shards.Pairwise fun s t => ∀ a ∈ s, ∀ b ∈ t, ¬ index.ShareSubject a.1 b.1

variable {index} {lines : List String} {moved : List (String × Nat)}

theorem IsSharding.isReordering {shards : List (List (String × Nat))}
    (h : index.IsSharding lines shards) : index.IsReordering lines shards.flatten :=
  ⟨h.perm, List.pairwise_flatten.mpr
    ⟨h.inOrder, h.apart.imp fun hst a ha b hb hab => absurd hab (hst a ha b hb)⟩⟩

theorem filter_filterMap_subject? (x : Value) (lines : List String) :
    ((lines.filterMap index.subject?).filter fun s => s.Same x) =
      (lines.filter fun line => index.IsSubject x line).filterMap index.subject? := by
  rw [List.filter_filterMap, List.filterMap_filter]
  refine List.filterMap_congr fun line _ => ?_
  cases hs : index.subject? line with
  | none => simp
  | some s => simp [IsSubject, hs, Option.filter]

namespace IsReordering

variable (h : index.IsReordering lines moved)
include h

theorem map_fst_perm : (moved.map Prod.fst).Perm lines := by
  have hperm := h.perm.map Prod.fst
  rwa [List.zipIdx_map_fst] at hperm

/-- Lines of one subject are the same, in the same order. -/
theorem filter_map_fst {about : String → Bool}
    (hshare : ∀ line line', about line → about line' → index.ShareSubject line line') :
    (moved.map Prod.fst).filter about = lines.filter about := by
  have hmoved : (moved.filter (about ∘ Prod.fst)).Pairwise fun a b => a.2 < b.2 :=
    List.pairwise_filter.mpr (h.inOrder.imp fun hab ha hb => hab (hshare _ _ ha hb))
  have heq : moved.filter (about ∘ Prod.fst) = (lines.zipIdx 1).filter (about ∘ Prod.fst) :=
    (h.perm.filter _).eq_of_pairwise (fun a b _ _ hab hba => absurd hab (Nat.lt_asymm hba))
      hmoved ((pairwise_zipIdx lines).filter _)
  calc (moved.map Prod.fst).filter about
    _ = (moved.filter (about ∘ Prod.fst)).map Prod.fst := List.filter_map
    _ = ((lines.zipIdx 1).map Prod.fst).filter about := by rw [heq, List.filter_map]
    _ = lines.filter about := by rw [List.zipIdx_map_fst]

theorem filter_isSubject (x : Value) :
    ((moved.map Prod.fst).filter fun line => index.IsSubject x line) =
      lines.filter fun line => index.IsSubject x line :=
  h.filter_map_fst fun _ _ hline hline' =>
    ⟨x, of_decide_eq_true hline, of_decide_eq_true hline'⟩

/-- An object is stored with the same neighbors. -/
theorem get?_ofAppends (includeSubject : Bool) (x : Value) :
    (NeighborStore.ofAppends (index.appends includeSubject (moved.map Prod.fst))).entries.get? x =
      (NeighborStore.ofAppends (index.appends includeSubject lines)).entries.get? x := by
  have hsome : (∃ line ∈ moved.map Prod.fst, index.IsSubject x line) ↔
      ∃ line ∈ lines, index.IsSubject x line := by
    simp only [h.map_fst_perm.mem_iff]
  rw [get?_ofAppends_appends, get?_ofAppends_appends, neighborsIn, neighborsIn,
    h.filter_isSubject, if_congr hsome rfl rfl]

/-- An object is spelled as it was. -/
theorem keys_ofAppends_perm (includeSubject : Bool) :
    (NeighborStore.ofAppends (index.appends includeSubject (moved.map Prod.fst))).entries.keys.Perm
      (NeighborStore.ofAppends (index.appends includeSubject lines)).entries.keys := by
  have hnodup (m : OrderedMap (List Value)) : m.keys.Nodup :=
    m.pairwise_keys.imp fun {a b} hab (heq : a = b) => hab (heq ▸ .refl a)
  refine (List.perm_ext_iff_of_nodup (hnodup _) (hnodup _)).mpr fun k => ?_
  rw [NeighborStore.keys_ofAppends, NeighborStore.keys_ofAppends, map_fst_appends, map_fst_appends,
    Value.mem_firsts_iff, Value.mem_firsts_iff, filter_filterMap_subject?,
    filter_filterMap_subject?, h.filter_isSubject]

end IsReordering

end LabelIndex

/-! ## Counts and warnings -/

theorem LoadStats.add_right_comm (a b c : LoadStats) : a + b + c = a + c + b := by
  change LoadStats.mk _ _ _ _ _ _ = LoadStats.mk _ _ _ _ _ _
  congr 1 <;> exact Nat.add_right_comm ..

/-- The counts of lines are the sum of what each of them counts. -/
theorem Load.stats_afterLines (options : LoadOptions) (index : LabelIndex) (l : Load)
    (lines : List String) :
    (l.afterLines options index lines).stats = lines.foldl
      (fun stats line => stats + (LineReading.ofLine index options.includeSubject line).stats)
      l.stats :=
  (List.foldl_hom Load.stats fun _ _ => rfl).symm

/-- The counts of lines are the same in any order. -/
theorem Load.stats_afterLines_perm (options : LoadOptions) (index : LabelIndex) (l : Load)
    {lines lines' : List String} (h : lines'.Perm lines) :
    (l.afterLines options index lines').stats = (l.afterLines options index lines).stats := by
  rw [stats_afterLines, stats_afterLines]
  exact h.foldl_eq' (fun _ _ _ _ _ => LoadStats.add_right_comm ..) _

/-- A label that is not resolved, with another number for its line. -/
def UnresolvedLabel.renumbered (number : Nat → Nat) (u : UnresolvedLabel) : UnresolvedLabel :=
  { u with lineNumber := number u.lineNumber }

/-- The number that a line of a reordering had. -/
def LabelIndex.numberBefore (moved : List (String × Nat)) (lineNumber : Nat) : Nat :=
  moved[lineNumber - 1]?.elim lineNumber Prod.snd

namespace LabelIndex

variable (index : LabelIndex)

theorem map_renumbered_warningsOfLine (number : Nat → Nat) (lineNumber : Nat) (line : String) :
    (index.warningsOfLine lineNumber line).map (·.renumbered number) =
      index.warningsOfLine (number lineNumber) line := by
  rw [warningsOfLine, warningsOfLine]
  split
  · rfl
  · split
    · simp [UnresolvedLabel.renumbered, Function.comp_def]
    · rfl

/-- The warnings of a reordering are those of its lines, each under the number it had. -/
theorem map_renumbered_warningsIn (moved : List (String × Nat)) :
    (index.warningsIn (moved.map Prod.fst)).map (·.renumbered (numberBefore moved)) =
      moved.flatMap fun a => index.warningsOfLine a.2 a.1 := by
  have hbefore : (moved.zipIdx 1).map (fun e => (e.1.1, numberBefore moved e.2)) = moved := by
    conv_rhs => rw [← List.zipIdx_map_fst 1 moved]
    refine List.map_congr_left fun ⟨a, n⟩ h => ?_
    obtain ⟨-, hn⟩ := List.mk_mem_zipIdx_iff_le_and_getElem?_sub.mp h
    rw [numberBefore, hn, Option.elim_some]
  conv_rhs => rw [← hbefore]
  rw [warningsIn, List.zipIdx_map, List.flatMap_map, List.flatMap_map, List.map_flatMap]
  simp only [map_renumbered_warningsOfLine, Prod.map_fst, Prod.map_snd, id_eq]

end LabelIndex

/-! ## Stores of parts -/

namespace NeighborStore

/-- Stores with the same entries, in any order, are equal. -/
theorem equal_of_perm {s t : NeighborStore} (h : s.toList.Perm t.toList) : s.equal t = true := by
  rw [equal, Bool.and_eq_true, beq_iff_eq, List.all_eq_true]
  refine ⟨h.length_eq, fun e he => ?_⟩
  rw [((t.entries.mem_toList_iff e).mp (h.subset he)).2]
  exact decide_eq_true (.refl _)

/-- The entries of a store whose subjects can be keys make up the store. -/
theorem ofList_toList {s : NeighborStore} (h : ∀ k ∈ s.entries.keys, k.isHashable) :
    ofList s.toList = .ok s := by
  have hentries : OrderedMap.ofList s.toList = s.entries := by
    have htoList := OrderedMap.toList_ofList s.entries.distinct
    rcases ho : OrderedMap.ofList s.entries.toList with ⟨entries, _⟩
    rw [ho] at htoList
    cases htoList
    exact ho
  have hall : (s.toList.all fun e => e.1.isHashable) = true :=
    List.all_eq_true.mpr fun e he => h e.1 (List.mem_map_of_mem he)
  rw [ofList, if_pos hall, hentries]

end NeighborStore

namespace LabelIndex

variable {index : LabelIndex} {lines : List String}

/-- Appends of shards have no subject in common. -/
theorem IsSharding.pairwise_appends {shards : List (List (String × Nat))}
    (h : index.IsSharding lines shards) (includeSubject : Bool) :
    (shards.map fun shard => index.appends includeSubject (shard.map Prod.fst)).Pairwise
      fun run run' => ∀ a ∈ run, ∀ b ∈ run', ¬ a.1.Same b.1 := by
  refine List.pairwise_map.mpr (h.apart.imp fun {s t} hst a ha b hb hab => ?_)
  obtain ⟨line, hline, ha⟩ := List.mem_filterMap.mp ha
  obtain ⟨line', hline', hb⟩ := List.mem_filterMap.mp hb
  obtain ⟨p, hp, rfl⟩ := List.mem_map.mp hline
  obtain ⟨q, hq, rfl⟩ := List.mem_map.mp hline'
  exact hst p hp q hq ⟨b.1, (index.isSubject_iff includeSubject).mpr ⟨a, ha, hab⟩,
    (index.isSubject_iff includeSubject).mpr ⟨b, hb, .refl _⟩⟩

/-- What shards are stored as, one after the other, is what they are stored as together. -/
theorem IsSharding.toList_ofAppends {shards : List (List (String × Nat))}
    (h : index.IsSharding lines shards) (includeSubject : Bool) :
    (NeighborStore.ofAppends
        (index.appends includeSubject (shards.flatten.map Prod.fst))).toList =
      shards.flatMap fun shard =>
        (NeighborStore.ofAppends (index.appends includeSubject (shard.map Prod.fst))).toList := by
  have hruns := NeighborStore.toList_ofAppends_flatten (h.pairwise_appends includeSubject)
  rw [List.flatMap_map] at hruns
  rw [← hruns, appends, List.map_flatten, List.filterMap_flatten, List.map_map]
  rfl

/-- Labels are resolved to identifiers of the index. -/
theorem mem_values_of_resolve? {label : String} {id : Value}
    (h : index.resolve? label = some id) : id ∈ index.entries.values := by
  obtain ⟨v, hv, hid⟩ := Option.bind_eq_some_iff.mp h
  obtain ⟨e, he, rfl⟩ := Option.map_eq_some_iff.mp hv
  obtain rfl : e.2 = id := by
    cases hnull : e.2 <;> simp_all [Value.toOption]
  exact List.mem_map_of_mem (List.mem_of_find?_eq_some he)

theorem mem_values_of_subject? {line : String} {s : Value} (h : index.subject? line = some s) :
    s ∈ index.entries.values := by
  obtain ⟨label, -, hs⟩ := Option.bind_eq_some_iff.mp h
  exact mem_values_of_resolve? hs

end LabelIndex

/-! ## Whole loads -/

namespace NeighborReader

open LabelIndex

/-- Lines can be loaded in every order that keeps the lines of each subject as they were : the
subjects of the store, the neighbors of each of them and the counts are the same, and so are the
warnings, up to the order of the lines and their numbers. Parts of the lines, each with all lines
of its subjects, can be loaded on their own : the union of their stores is the store of all
lines. Which lines have one subject is a matter of `Value.Same`, by which the floating-point value
that is no number is one object. -/
theorem loadLines_reordered (r : NeighborReader) (lines : List String)
    (hids : ∀ id ∈ r.index.entries.values, id.isHashable) :
    ∃ store, (r.loadLines lines).2.result = .ok store ∧
      (∀ moved, r.index.IsReordering lines moved →
        let last := (r.loadLines lines).1.last
        let last' := (r.loadLines (moved.map Prod.fst)).1.last
        ∃ store', (r.loadLines (moved.map Prod.fst)).2.result = .ok store' ∧
          store'.entries.keys.Perm store.entries.keys ∧ (∀ id, store'.get id = store.get id) ∧
          last'.stats = last.stats ∧
          (last'.warnings.map (·.renumbered (numberBefore moved))).Perm last.warnings) ∧
      ∀ shards, r.index.IsSharding lines shards →
        ∃ stores union, List.Forall₂ (fun shard part =>
            (r.loadLines (shard.map Prod.fst)).2.result = .ok part) shards stores ∧
          NeighborStore.ofList (stores.flatMap NeighborStore.toList) = .ok union ∧
          union.toList.Perm store.toList ∧ (∀ id, union.get id = store.get id) ∧
          union.equal store = true := by
  have hkeys (lines : List String) : ∀ line ∈ lines, ∀ s ∈ r.index.subject? line, s.isHashable :=
    fun line _ s hs => hids s (mem_values_of_subject? hs)
  refine ⟨_, r.result_loadLines lines (hkeys _), fun moved h => ?_, fun shards h => ?_⟩
  · have hperm := h.keys_ofAppends_perm r.settings.options.includeSubject
    refine ⟨_, r.result_loadLines _ (hkeys _), hperm, fun id => ?get, ?stats, ?warnings⟩
    case get =>
      rw [NeighborStore.get, NeighborStore.get, h.get?_ofAppends]
    case stats =>
      have hstats : (r.loaded (moved.map Prod.fst)).stats = (r.loaded lines).stats :=
        Load.stats_afterLines_perm r.settings.options r.index {} h.map_fst_perm
      have hstore (lines : List String) : (r.loaded lines).store =
          .ofAppends (r.index.appends r.settings.options.includeSubject lines) :=
        Load.store_afterLines r.settings.options r.index {} lines
      have hsize : (r.loaded (moved.map Prod.fst)).store.size = (r.loaded lines).store.size := by
        simpa only [hstore, NeighborStore.size_eq_length_keys] using hperm.length_eq
      rw [loadLines_of_isHashable (hkeys _), loadLines_of_isHashable (hkeys _)]
      exact congrArg₂ (fun stats n => { stats with entries := n }) hstats hsize
    case warnings =>
      rw [warnings_loadLines (hkeys _), warnings_loadLines (hkeys _),
        map_renumbered_warningsIn]
      exact h.perm.flatMap_right _
  · let part (shard : List (String × Nat)) : NeighborStore :=
      .ofAppends (r.index.appends r.settings.options.includeSubject (shard.map Prod.fst))
    have hparts :
        (shards.map part).flatMap NeighborStore.toList = (part shards.flatten).toList := by
      rw [List.flatMap_map]
      exact (h.toList_ofAppends _).symm
    have hhashable : ∀ k ∈ (part shards.flatten).entries.keys, k.isHashable := by
      intro k hk
      rw [NeighborStore.keys_ofAppends, map_fst_appends] at hk
      obtain ⟨line, hline, hs⟩ := List.mem_filterMap.mp (Value.mem_of_mem_firsts hk)
      exact hkeys _ line hline k hs
    have hget := h.isReordering.get?_ofAppends r.settings.options.includeSubject
    have hperm := OrderedMap.toList_perm
      (h.isReordering.keys_ofAppends_perm r.settings.options.includeSubject) hget
    refine ⟨shards.map part, part shards.flatten, ?parts, ?union, hperm, fun id => ?get,
      NeighborStore.equal_of_perm hperm⟩
    case parts =>
      exact List.forall₂_map_right_iff.mpr
        (List.forall₂_same.mpr fun shard _ => r.result_loadLines _ (hkeys _))
    case union => rw [hparts, NeighborStore.ofList_toList hhashable]
    case get => rw [NeighborStore.get, NeighborStore.get, hget]

/-- A reader of two labels of one object, spelled differently, and of a label of another one. -/
def twoSubjectReader : NeighborReader where
  index := ⟨.ofList [(.text "x", .int 1), (.text "y", .bool true), (.text "z", .text "Z")], 2, []⟩

/-- Lines about these objects, between lines about nothing. -/
def twoSubjectLines : List String := ["x a z", "", "q z", "z x", "y x q"]

/-- The lines in another order. -/
def twoSubjectMoved : List (String × Nat) :=
  [("z x", 4), ("x a z", 1), ("q z", 3), ("y x q", 5), ("", 2)]

/-- The lines in two parts. -/
def twoSubjectShards : List (List (String × Nat)) :=
  [[("q z", 3), ("z x", 4)], [("", 2), ("x a z", 1), ("y x q", 5)]]

theorem loadLines_reordered_two :
    ∃ store, (twoSubjectReader.loadLines twoSubjectLines).2.result = .ok store ∧
      (∃ store', (twoSubjectReader.loadLines (twoSubjectMoved.map Prod.fst)).2.result = .ok store' ∧
        store'.entries.keys.Perm store.entries.keys ∧ store'.get (.int 1) = store.get (.int 1)) ∧
      ∃ stores union, List.Forall₂ (fun shard part =>
          (twoSubjectReader.loadLines (shard.map Prod.fst)).2.result = .ok part)
          twoSubjectShards stores ∧
        NeighborStore.ofList (stores.flatMap NeighborStore.toList) = .ok union ∧
        union.equal store = true := by
  have hids : ∀ id ∈ twoSubjectReader.index.entries.values, id.isHashable := by decide +kernel
  have hmoved : twoSubjectReader.index.IsReordering twoSubjectLines twoSubjectMoved :=
    ⟨by decide +kernel, by decide +kernel⟩
  have hshards : twoSubjectReader.index.IsSharding twoSubjectLines twoSubjectShards :=
    ⟨by decide +kernel, by decide +kernel, by decide +kernel⟩
  obtain ⟨store, hstore, hreordered, hsharded⟩ :=
    loadLines_reordered twoSubjectReader twoSubjectLines hids
  obtain ⟨store', hstore', hkeys, hget, -⟩ := hreordered _ hmoved
  obtain ⟨stores, union, hparts, hunion, -, -, hequal⟩ := hsharded _ hshards
  exact ⟨store, hstore, ⟨store', hstore', hkeys, hget _⟩, stores, union, hparts, hunion, hequal⟩

end NeighborReader

end Vicinity
