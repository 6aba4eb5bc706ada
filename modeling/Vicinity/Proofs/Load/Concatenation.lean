import Vicinity.Proofs.Load.Reordered
import Vicinity.Proofs.Store.Merge

/-!
# Lines after lines

`Load.andThen` is a load that goes on where another one stands : counts are added, the lines of the
second load have later numbers, and the store of the first one is continued with that of the
second. A line that is added to the second load is added to both (`Load.after_andThen`), so a load
of lines is the same wherever it starts (`Load.afterLines_eq_andThen`).

So the load of two files, one after the other, is told by the loads of each of them
(`NeighborReader.loadLines_append`). Only the number of entries is not a sum, since both files can
be about the same object.
-/

namespace Vicinity

/-! ## Later lines -/

/-- What is told of a label, with another number for its line. -/
def Event.renumbered (number : Nat → Nat) : Event → Event
  | unresolved u => unresolved (u.renumbered number)
  | e => e

theorem LineReading.map_renumbered_warnings (number : Nat → Nat) (lineNumber : Nat)
    (r : LineReading) :
    (r.warnings lineNumber).map (·.renumbered number) = r.warnings (number lineNumber) := by
  cases r with
  | blank => rfl
  | unknownSubject label => rfl
  | entry subject neighbors unresolved =>
    simp only [warnings, List.map_map]
    rfl

theorem LoadOptions.map_renumbered_told (options : LoadOptions) (number : Nat → Nat)
    (us : List UnresolvedLabel) :
    (options.told us).map (·.renumbered number) =
      options.told (us.map (·.renumbered number)) := by
  unfold told
  split
  · simp only [List.map_map]
    rfl
  · rfl

namespace Load

variable {index : LabelIndex} (options : LoadOptions)

/-- A load that goes on where another one stands. -/
def andThen (l m : Load) : Load where
  lineNumber := l.lineNumber + m.lineNumber
  stats := l.stats + m.stats
  warnings := l.warnings ++ m.warnings.map (·.renumbered (l.lineNumber + ·))
  store := l.store.merge m.store
  events := l.events ++ m.events.map (·.renumbered (l.lineNumber + ·))

theorem andThen_start (l : Load) : l.andThen {} = l := by
  have hstore : l.store.merge .empty = l.store := l.store.merge_empty
  simp only [andThen, hstore, List.map_nil, List.append_nil]
  rfl

/-- One more line of the second load is one more line of both. -/
theorem after_andThen (l m : Load) (r : LineReading) :
    (l.andThen m).after options r = l.andThen (m.after options r) := by
  have hwarnings : (l.andThen m).warnings ++ r.warnings (l.lineNumber + m.lineNumber + 1) =
      l.warnings ++ (m.warnings ++ r.warnings (m.lineNumber + 1)).map
        (·.renumbered (l.lineNumber + ·)) := by
    rw [List.map_append, r.map_renumbered_warnings, ← List.append_assoc]
    rfl
  have hevents :
      (l.andThen m).events ++ options.told (r.warnings (l.lineNumber + m.lineNumber + 1)) =
        l.events ++ (m.events ++ options.told (r.warnings (m.lineNumber + 1))).map
          (·.renumbered (l.lineNumber + ·)) := by
    rw [List.map_append, options.map_renumbered_told, r.map_renumbered_warnings,
      ← List.append_assoc]
    rfl
  have hstore : r.append?.elim (l.store.merge m.store) (l.store.merge m.store).append =
      l.store.merge (r.append?.elim m.store m.store.append) := by
    cases r.append? with
    | none => rfl
    | some a => exact (l.store.merge_append m.store a).symm
  have hstats : l.stats + m.stats + r.stats = l.stats + (m.stats + r.stats) :=
    LoadStats.add_assoc ..
  exact (Load.mk.injEq ..).mpr ⟨rfl, hstats, hwarnings, hstore, hevents⟩

/-- More lines of the second load are more lines of both. -/
theorem afterLines_andThen (l m : Load) (lines : List String) :
    (l.andThen m).afterLines options index lines =
      l.andThen (m.afterLines options index lines) := by
  induction lines generalizing m with
  | nil => rfl
  | cons line rest ih => rw [afterLines_cons, after_andThen, ih, afterLines_cons]

/-- Lines do to a load what they are loaded to on their own. -/
theorem afterLines_eq_andThen (l : Load) (lines : List String) :
    l.afterLines options index lines = l.andThen (afterLines options index {} lines) := by
  rw [← afterLines_andThen, andThen_start]

end Load

/-! ## Whole loads -/

/-- An object has its neighbors in the first store and then those in the second. -/
theorem Neighborhood.neighbors_merge (s t : NeighborStore) (x : Value) :
    (mk (s.merge t)).neighbors x = do return (← (mk s).neighbors x) ++ (← (mk t).neighbors x) := by
  simp only [neighbors, NeighborStore.get, NeighborStore.get?_merge]
  by_cases hx : x.isHashable
  · simp only [if_pos hx]
    cases s.entries.get? x <;> cases t.entries.get? x <;> simp [Option.merge, bind, Except.bind,
      pure, Except.pure]
  · simp only [if_neg hx]
    rfl

namespace NeighborReader

open LabelIndex

theorem loaded_append (r : NeighborReader) (lines more : List String) :
    r.loaded (lines ++ more) = (r.loaded lines).andThen (r.loaded more) := by
  rw [loaded, Load.afterLines, List.foldl_append]
  exact Load.afterLines_eq_andThen r.settings.options (r.loaded lines) more

theorem lineNumber_loaded (r : NeighborReader) (lines : List String) :
    (r.loaded lines).lineNumber = lines.length :=
  (Load.lineNumber_afterLines r.settings.options r.index {} lines).trans (Nat.zero_add _)

/-- Lines and more lines, loaded together, come to what the loads of both come to. The store has
the subjects of both, those of the first lines before the new ones, and each of them with its
neighbors from the first lines and then those from the others. Counts are added, but entries, which
are the subjects of the store. Warnings, and what is told of them, are those of the first lines and
then those of the others, which have later numbers. Subjects of both are the same by `Value.Same`,
for which the floating-point value that is no number is one object. -/
theorem loadLines_append (r : NeighborReader) (lines more : List String)
    (hids : ∀ id ∈ r.index.entries.values, id.isHashable) :
    let last := (r.loadLines lines).1.last
    let last' := (r.loadLines more).1.last
    let whole := (r.loadLines (lines ++ more)).1.last
    ∃ store store' union, (r.loadLines lines).2.result = .ok store ∧
      (r.loadLines more).2.result = .ok store' ∧
      (r.loadLines (lines ++ more)).2.result = .ok union ∧
      (∀ x, union.contains x = (do return (← store.contains x) || (← store'.contains x)) ∧
        (Neighborhood.mk union).neighbors x = do
          return (← (Neighborhood.mk store).neighbors x) ++
            (← (Neighborhood.mk store').neighbors x)) ∧
      union.entries.keys = store.entries.keys ++
        store'.entries.keys.filter (fun k => ¬ ∃ j ∈ store.entries.keys, j.Same k) ∧
      whole.lineNumber = last.lineNumber + last'.lineNumber ∧
      whole.stats = { last.stats + last'.stats with entries := union.entries.keys.length } ∧
      whole.warnings =
        last.warnings ++ last'.warnings.map (·.renumbered (lines.length + ·)) ∧
      (r.loadLines (lines ++ more)).2.events = (r.loadLines lines).2.events ++
        (r.loadLines more).2.events.map (·.renumbered (lines.length + ·)) := by
  have hkeys (lines : List String) : ∀ line ∈ lines, ∀ s ∈ r.index.subject? line, s.isHashable :=
    fun line _ s hs => hids s (mem_values_of_subject? hs)
  simp only [loadLines_of_isHashable (hkeys _), loaded_append]
  have hsize := ((r.loaded lines).store.merge (r.loaded more).store).size_eq_length_keys
  refine ⟨_, _, _, rfl, rfl, rfl, fun x => ⟨?contains, ?neighbors⟩, ?keys, rfl, ?stats, ?warnings,
    ?events⟩
  case contains => exact NeighborStore.contains_merge _ _ x
  case neighbors => exact Neighborhood.neighbors_merge _ _ x
  case keys => exact NeighborStore.keys_merge _ _
  case stats =>
    exact congrArg (fun n => { (r.loaded lines).stats + (r.loaded more).stats with entries := n })
      hsize
  case warnings =>
    rw [← r.lineNumber_loaded lines]
    rfl
  case events =>
    rw [← r.lineNumber_loaded lines]
    rfl

/-- Lines about an object. -/
def firstLines : List String := ["x z q", "", "z"]

/-- Lines about the same object by another label, which has its identifier in another spelling. -/
def otherLines : List String := ["q", "y x q", "z y"]

theorem loadLines_append_aliases :
    (∀ id ∈ twoSubjectReader.index.entries.values, id.isHashable) ∧
      let whole := twoSubjectReader.loadLines (firstLines ++ otherLines)
      ∃ union, whole.2.result = .ok union ∧ union.entries.keys = [.int 1, .text "Z"] ∧
        (Neighborhood.mk union).neighbors (.bool true) = .ok [.text "Z", .int 1] ∧
        whole.1.last.stats.entries = 2 ∧ ⟨"q", 4, 0, true⟩ ∈ whole.1.last.warnings := by
  have hids : ∀ id ∈ twoSubjectReader.index.entries.values, id.isHashable := by decide +kernel
  have hresult (lines : List String) :=
    twoSubjectReader.result_loadLines lines fun _ _ s hs => hids s (mem_values_of_subject? hs)
  obtain ⟨store, store', union, hstore, hstore', hunion, hanswers, hkeys, -, hstats, hwarnings,
    -⟩ := loadLines_append twoSubjectReader firstLines otherLines hids
  obtain rfl := Except.ok.inj ((hresult _).symm.trans hstore)
  obtain rfl := Except.ok.inj ((hresult _).symm.trans hstore')
  have hkeys : union.entries.keys = [.int 1, .text "Z"] := hkeys.trans (by decide +kernel)
  refine ⟨hids, union, hunion, hkeys, (hanswers _).2.trans (by decide +kernel), ?_, ?_⟩
  · rw [hstats, hkeys]
    rfl
  · rw [hwarnings]
    exact List.mem_append_right _ (List.mem_map.mpr ⟨⟨"q", 1, 0, true⟩, by decide +kernel, rfl⟩)

end NeighborReader

end Vicinity
