import Vicinity.Neighborhood
import Vicinity.Proofs.Load.Step

/-!
# The store of a load

A line whose first token belongs to an object adds one append to the store, under the identifier
of that object; every other line leaves the store alone (`Load.store_afterLines`). So the store
of all lines is that of the run of their appends, and what is known of runs is known of loads :
who is a subject, with which neighbors, and in which spelling (`NeighborReader.loadLines_answers`).
-/

namespace Vicinity

/-! ## The run of a load -/

namespace LabelIndex

variable (index : LabelIndex)

/-- Whether the first token of a line belongs to the object `x`. -/
def IsSubject (x : Value) (line : String) : Prop := ∃ s, index.subject? line = some s ∧ s.Same x

instance (x : Value) (line : String) : Decidable (index.IsSubject x line) :=
  match h : index.subject? line with
  | none => isFalse fun ⟨s, hs, _⟩ => by simp [h] at hs
  | some s =>
    decidable_of_iff (s.Same x) ⟨fun hx => ⟨s, h, hx⟩, fun ⟨t, ht, hx⟩ => by simp_all⟩

/-- What lines append to a store. -/
def appends (includeSubject : Bool) (lines : List String) : List (Value × List Value) :=
  lines.filterMap (index.append? includeSubject)

/-- The neighbors that lines give to the object `x`. -/
def neighborsIn (includeSubject : Bool) (x : Value) (lines : List String) : List Value :=
  (lines.filter fun line => index.IsSubject x line).flatMap
    (index.namedFrom (firstNeighbor includeSubject))

theorem isSubject_iff {x : Value} {line : String} (includeSubject : Bool) :
    index.IsSubject x line ↔ ∃ a ∈ index.append? includeSubject line, a.1.Same x := by
  constructor
  · rintro ⟨s, hs, hx⟩
    exact ⟨_, Option.map_eq_some_iff.mpr ⟨s, hs, rfl⟩, hx⟩
  · rintro ⟨a, ha, hx⟩
    obtain ⟨s, hs, rfl⟩ := Option.map_eq_some_iff.mp ha
    exact ⟨s, hs, hx⟩

theorem exists_mem_appends_iff (includeSubject : Bool) (x : Value) (lines : List String) :
    (∃ a ∈ index.appends includeSubject lines, a.1.Same x) ↔
      ∃ line ∈ lines, index.IsSubject x line := by
  simp only [appends, List.mem_filterMap, isSubject_iff index includeSubject]
  exact ⟨fun ⟨a, ⟨line, hline, ha⟩, hs⟩ => ⟨line, hline, a, ha, hs⟩,
    fun ⟨line, hline, a, ha, hs⟩ => ⟨a, ⟨line, hline, ha⟩, hs⟩⟩

theorem map_fst_append? (includeSubject : Bool) (line : String) :
    (index.append? includeSubject line).map Prod.fst = index.subject? line := by
  rw [append?, Option.map_map]
  exact Option.map_id'

theorem map_fst_appends (includeSubject : Bool) (lines : List String) :
    (index.appends includeSubject lines).map Prod.fst = lines.filterMap index.subject? := by
  simp only [appends, List.map_filterMap, map_fst_append?]

theorem flatMap_appends (includeSubject : Bool) (x : Value) (lines : List String) :
    ((index.appends includeSubject lines).filter fun a => a.1.Same x).flatMap Prod.snd =
      index.neighborsIn includeSubject x lines := by
  induction lines with
  | nil => rfl
  | cons line rest ih =>
    rw [appends, List.filterMap_cons, neighborsIn, List.filter_cons]
    cases hs : index.subject? line with
    | none =>
      have hx : ¬ index.IsSubject x line := by simp [IsSubject, hs]
      simp only [append?, hs, Option.map_none, hx, decide_false, Bool.false_eq_true, if_false]
      exact ih
    | some s =>
      have hx : index.IsSubject x line ↔ s.Same x := by simp [IsSubject, hs]
      simp only [append?, hs, Option.map_some, List.filter_cons, hx]
      by_cases h : s.Same x
      · simp only [h, decide_true, if_true, List.flatMap_cons]
        exact congrArg _ ih
      · simp only [h, decide_false, Bool.false_eq_true, if_false]
        exact ih

/-- What lines are stored as for the object `x`. -/
theorem get?_ofAppends_appends (includeSubject : Bool) (x : Value) (lines : List String) :
    (NeighborStore.ofAppends (index.appends includeSubject lines)).entries.get? x =
      if ∃ line ∈ lines, index.IsSubject x line then
        some (index.neighborsIn includeSubject x lines)
      else none := by
  rw [NeighborStore.get?_ofAppends, flatMap_appends,
    if_congr (index.exists_mem_appends_iff _ x lines) rfl rfl]

end LabelIndex

/-! ## Whole loads -/

namespace NeighborReader

theorem store_loaded (r : NeighborReader) (lines : List String) :
    (r.loaded lines).store =
      .ofAppends (r.index.appends r.settings.options.includeSubject lines) :=
  Load.store_afterLines r.settings.options r.index {} lines

/-- The store of a load is that of the run of its lines' appends. -/
theorem result_loadLines (r : NeighborReader) (lines : List String)
    (h : ∀ line ∈ lines, ∀ s ∈ r.index.subject? line, s.isHashable) :
    (r.loadLines lines).2.result =
      .ok (.ofAppends (r.index.appends r.settings.options.includeSubject lines)) := by
  rw [loadLines_of_isHashable h, ← store_loaded]

/-- Lines whose subjects can be keys are loaded, and the store answers for every identifier `x`
that can be a key : `x` is absent if no line has it as its subject, and otherwise has the
neighbors that the lines with this subject name, line by line. Subjects are spelled as, and stand
in the order in which, they came first. The floating-point value that is no number is one subject,
as for `Value.Same`. -/
theorem loadLines_answers (r : NeighborReader) (lines : List String)
    (h : ∀ line ∈ lines, ∀ s ∈ r.index.subject? line, s.isHashable) :
    ∃ store : NeighborStore, (r.loadLines lines).2.result = .ok store ∧
      store.entries.keys = Value.firsts (lines.filterMap r.index.subject?) ∧
      store.entries.keys.Pairwise (fun a b => ¬ a.Same b) ∧
      ∀ x : Value, x.isHashable →
        (store.get x = .ok none ↔ ∀ line ∈ lines, ¬ r.index.IsSubject x line) ∧
        ((∀ line ∈ lines, ¬ r.index.IsSubject x line) →
          (Neighborhood.mk store).hasNeighbors x = .ok false ∧
          (Neighborhood.mk store).neighbors x = .ok []) ∧
        ((∃ line ∈ lines, r.index.IsSubject x line) →
          let neighbors := r.index.neighborsIn r.settings.includeSubject.isTruthy x lines
          store.get x = .ok (some neighbors) ∧
          (Neighborhood.mk store).hasNeighbors x = .ok true ∧
          (Neighborhood.mk store).neighbors x = .ok neighbors) := by
  refine ⟨_, r.result_loadLines lines h, ?_, OrderedMap.pairwise_keys _, fun x hx => ?_⟩
  · rw [NeighborStore.keys_ofAppends, LabelIndex.map_fst_appends]
  have hget : (NeighborStore.ofAppends
      (r.index.appends r.settings.options.includeSubject lines)).get x =
        .ok (if ∃ line ∈ lines, r.index.IsSubject x line then
          some (r.index.neighborsIn r.settings.includeSubject.isTruthy x lines) else none) := by
    rw [NeighborStore.get, if_pos hx, NeighborStore.get?_ofAppends, LabelIndex.flatMap_appends,
      if_congr (LabelIndex.exists_mem_appends_iff _ _ x lines) rfl rfl]
    rfl
  by_cases hs : ∃ line ∈ lines, r.index.IsSubject x line
  · rw [if_pos hs] at hget
    have hs' : ¬ ∀ line ∈ lines, ¬ r.index.IsSubject x line := by simpa using hs
    refine ⟨by simp [hget, hs'], fun hn => absurd hn hs', fun _ => ⟨hget, ?_, ?_⟩⟩
    · simp only [Neighborhood.hasNeighbors, NeighborStore.contains, hget]
      rfl
    · simp only [Neighborhood.neighbors, hget]
      rfl
  · rw [if_neg hs] at hget
    have hs' : ∀ line ∈ lines, ¬ r.index.IsSubject x line := by simpa using hs
    refine ⟨⟨fun _ => hs', fun _ => hget⟩, fun _ => ⟨?_, ?_⟩, fun hn => absurd hn hs⟩
    · simp only [Neighborhood.hasNeighbors, NeighborStore.contains, hget]
      rfl
    · simp only [Neighborhood.neighbors, hget]
      rfl

/-- Two labels of one object, spelled differently, a label without an object, and an object that
cannot be a key but is a neighbor. -/
def aliasReader : NeighborReader where
  index := ⟨.ofList [(.text "x", .int 1), (.text "y", .bool true), (.text "a", .list []),
    (.text "n", .null)], 4, []⟩
  settings := { includeSubject := .int 1 }

/-- Lines about that object, one of them broken, between lines about nothing. -/
def aliasLines : List String := ["x a  a\r\n", "   ", "y n x ", "q a", ""]

theorem loadLines_answers_alias :
    (∀ line ∈ aliasLines, ∀ s ∈ aliasReader.index.subject? line, s.isHashable) ∧
      (aliasReader.index.IsSubject (.int 1) "y n x " ∧ Value.isHashable (.int 1)) ∧
      aliasReader.index.neighborsIn true (.int 1) aliasLines =
        [.int 1, .list [], .list [], .bool true, .int 1] ∧
      ∃ store : NeighborStore, (aliasReader.loadLines aliasLines).2.result = .ok store ∧
        store.entries.keys = [.int 1] ∧
        (Neighborhood.mk store).neighbors (.int 1) =
          .ok [.int 1, .list [], .list [], .bool true, .int 1] := by
  have h : ∀ line ∈ aliasLines, ∀ s ∈ aliasReader.index.subject? line, s.isHashable := by
    decide +kernel
  have hs : aliasReader.index.IsSubject (.int 1) "y n x " := by decide +kernel
  have hn : aliasReader.index.neighborsIn true (.int 1) aliasLines =
      [.int 1, .list [], .list [], .bool true, .int 1] := by decide +kernel
  have hk : Value.firsts (aliasLines.filterMap aliasReader.index.subject?) = [.int 1] := by
    decide +kernel
  obtain ⟨store, hr, hkeys, -, hx⟩ := loadLines_answers aliasReader aliasLines h
  obtain ⟨-, -, hx⟩ := hx (.int 1) rfl
  obtain ⟨-, -, hx⟩ := hx ⟨"y n x ", by decide +kernel, hs⟩
  exact ⟨h, ⟨hs, rfl⟩, hn, store, hr, hkeys.trans hk, hn ▸ hx⟩

end NeighborReader

end Vicinity
