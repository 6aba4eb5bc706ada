import Vicinity.Proofs.Index.Pass
import Vicinity.Proofs.Neighborhood

/-!
# Objects that are rejected

An item of a source of objects is rejected if it cannot be walked through, has too few elements, or
has labels that cannot be walked through (`SourceItem.IsRejected`). The first such item ends the
pass over the source (`Indexing.items_of_rejected`), so that what comes of the pass, and what is
told of it, is a matter of the items before it and of the item (`LabelIndex.build_of_rejected`).

A load passes over all objects before it opens its file. So nothing that has to do with the file
makes a difference to a load that an object ends, and the reader of the load before it is kept. If
no object is rejected then the load has a reader of its own, also if the file cannot be read
(`NeighborhoodFactory.instantiate_of_rejected`).
-/

namespace Vicinity

/-! ## Items -/

namespace ObjectRecord

variable {fault : ItemFault} {id cell externalId : Value}

theorem labelsOfCell_eq_error_iff :
    labelsOfCell cell = .error fault ↔
      fault = .labelsNotIterable ∧ cell ≠ .null ∧ cell.elements? = none := by
  cases cell <;> simp [labelsOfCell, Value.elements?, eq_comm]

theorem ofCells_eq_error_iff :
    ofCells id cell externalId = .error fault ↔
      fault = .labelsNotIterable ∧ cell ≠ .null ∧ cell.elements? = none := by
  rw [← labelsOfCell_eq_error_iff, ofCells]
  cases labelsOfCell cell <;> simp [bind, Except.bind, pure, Except.pure]

end ObjectRecord

namespace SourceItem

/-- Why an item is rejected. -/
inductive IsRejected : SourceItem → ItemFault → Prop
  | notIterable {v : Value} (h : v.elements? = none) : IsRejected (.loose v) .notIterable
  | tooFew {v : Value} {elements : List Value} (h : v.elements? = some elements)
    (hlength : elements.length < 2) : IsRejected (.loose v) .tooFew
  | labels {v id cell : Value} {rest : List Value} (h : v.elements? = some (id :: cell :: rest))
    (hnull : cell ≠ .null) (hcell : cell.elements? = none) :
    IsRejected (.loose v) .labelsNotIterable

/-- An item is rejected for one of three reasons, and is an object otherwise. -/
theorem coerce_eq_error_iff {item : SourceItem} {fault : ItemFault} :
    item.coerce = .error fault ↔ item.IsRejected fault := by
  constructor
  · intro h
    cases item with
    | record r => cases h
    | loose v =>
      rw [coerce] at h
      split at h
      · rename_i hnone
        cases h
        exact .notIterable hnone
      · rename_i helements
        obtain ⟨rfl, hnull, hcell⟩ := ObjectRecord.ofCells_eq_error_iff.mp h
        exact .labels helements hnull hcell
      · rename_i elements hshort helements
        cases h
        refine .tooFew helements (Nat.lt_of_not_le fun hle => ?_)
        match elements, hle with
        | id :: cell :: rest, _ => exact hshort id cell rest rfl
  · intro h
    cases h with
    | notIterable h => simp only [coerce, h]
    | @tooFew v elements h hlength =>
      match elements, hlength with
      | [], _ | [_], _ => simp only [coerce, h]
    | labels h hnull hcell =>
      simp only [coerce, h]
      exact ObjectRecord.ofCells_eq_error_iff.mpr ⟨rfl, hnull, hcell⟩

end SourceItem

/-! ## Passes -/

section

variable [Platform] {front : List SourceItem} {records : List ObjectRecord} {warn : Bool}
  (hfront : List.Forall₂ (fun item r => item.coerce = .ok r) front records)
  (hkeys : ∀ r ∈ records, ∀ name ∈ r.names, name.isHashable)
include hfront hkeys

/-- An item that is rejected ends the pass where the items before it lead, whatever follows it. -/
theorem Indexing.items_of_rejected {item : SourceItem} {fault : ItemFault}
    (hitem : item.IsRejected fault) (rest : List SourceItem) (s : Indexing)
    (htold : Collision.CanBeTold warn
      (collisionsFrom s.entries (ObjectRecord.namings records))) :
    Indexing.items warn s (front ++ item :: rest) =
      .error ({ s.after warn (ObjectRecord.namings records) with
        objectCount := s.objectCount + front.length }, .badItem fault) := by
  have hlead : front.foldlM (Indexing.item warn) s = _ :=
    Indexing.items_of_records hfront hkeys s htold
  rw [Indexing.items, List.foldlM_append, hlead]
  change (Indexing.item warn _ item >>= fun s => rest.foldlM (Indexing.item warn) s) = _
  rw [Indexing.item, SourceItem.coerce_eq_error_iff.mpr hitem]
  rfl

/-- Of a pass that an item ends is told what is told of the items before it, but not that they are
indexed. -/
theorem LabelIndex.build_of_rejected
    (htold : Collision.CanBeTold warn
      (Indexing.collisionsFrom .empty (ObjectRecord.namings records))) :
    ∃ told size, (build front warn).events = told ++ [.indexFinished size front.length] ∧
      ∀ item fault rest, item.IsRejected fault →
        build (front ++ item :: rest) warn = ⟨told, .error (.badItem fault)⟩ := by
  let s : Indexing := { events := [.indexStarted] }
  refine ⟨(s.after warn (ObjectRecord.namings records)).events,
    (s.after warn (ObjectRecord.namings records)).entries.size, ?_, fun item fault rest hitem => ?_⟩
  · rw [build, Indexing.items_of_records hfront hkeys _ htold]
    simp only [Nat.zero_add, s]
  · rw [build, Indexing.items_of_rejected hfront hkeys hitem _ _ htold]

end

/-! ## Loads -/

namespace NeighborhoodFactory

/-- The factory of another file in another encoding. -/
def reading (f : NeighborhoodFactory) (file : String) (encoding : Value) : NeighborhoodFactory :=
  { f with file, configuration := { f.configuration with encoding } }

/-- The first object that is rejected ends a load, and nothing but the objects up to there makes a
difference to it : no file or encoding, no files of the system, and no later object.

- What the load fails with is why the object is rejected, and the reader of the load before is kept.
- What is told is that a load is requested and what is told of indexing the objects before, without
  the end of it.

If no object is rejected then the load has a reader of the index of all objects, which has read as
far as it could, and comes to what the reader comes to.

All this is so if the collisions of the objects before can be told, where they are to be told. -/
theorem instantiate_of_rejected [Platform] (f : NeighborhoodFactory) {front : List SourceItem}
    {records : List ObjectRecord}
    (hfront : List.Forall₂ (fun item r => item.coerce = .ok r) front records)
    (hkeys : ∀ r ∈ records, ∀ name ∈ r.names, name.isHashable)
    (htold : Collision.CanBeTold f.configuration.warnOnCollision.isTruthy
      (Indexing.collisionsFrom .empty (ObjectRecord.namings records))) :
    (∃ told size, (f.build front).events = told ++ [.indexFinished size front.length] ∧
      ∀ item fault, item.IsRejected fault → ∀ file encoding fs rest,
        let g := f.reading file encoding
        g.instantiate fs (front ++ item :: rest) =
          (g, ⟨.loadRequested :: told, .error (.objects (.badItem fault))⟩)) ∧
    ∃ index, (f.build front).result = .ok index ∧ ∀ fs,
      let read := (f.reader index).loadFile fs f.file
      (f.instantiate fs front).1.lastReader = some read.1 ∧
        (f.instantiate fs front).2.result = (read.2.result.mapError .load).map Neighborhood.mk := by
  refine ⟨?rejected, ?accepted⟩
  case rejected =>
    obtain ⟨told, size, hevents, hbuild⟩ :=
      LabelIndex.build_of_rejected hfront hkeys htold
    refine ⟨told, size, hevents, fun item fault hitem file encoding fs rest => ?_⟩
    intro g
    have hended : g.build (front ++ item :: rest) = ⟨told, .error (.badItem fault)⟩ :=
      hbuild item fault rest hitem
    have hload : g.load fs (front ++ item :: rest) = _ :=
      load_of_fault (congrArg Told.result hended)
    rw [instantiate, hload, hended]
    rfl
  case accepted =>
    obtain ⟨index, hindex⟩ : ∃ index, (f.build front).result = .ok index := by
      rw [build, LabelIndex.build, Indexing.items_of_records hfront hkeys _ htold]
      exact ⟨_, rfl⟩
    refine ⟨index, hindex, fun fs => ?_⟩
    rw [instantiate, load_of_index hindex]
    exact ⟨rfl, rfl⟩

/-- Two objects that share a label, one of them given as a tuple. -/
def disputedItems : List SourceItem :=
  [.record ⟨.int 1, [.text "b", .text "a"], some (.text "x")⟩,
    .loose (.tuple [.int 2, .list [.null, .text "a"]])]

/-- The objects. -/
def disputedRecords : List ObjectRecord :=
  [⟨.int 1, [.text "b", .text "a"], some (.text "x")⟩, ⟨.int 2, [.text "a"], none⟩]

/-- A factory that has loaded before. -/
def usedFactory : NeighborhoodFactory :=
  { file := "x", configuration := {}, lastReader := some { index := ⟨.empty, 0, []⟩ } }

theorem instantiate_of_rejected_disputed :
    let rejected : SourceItem := .loose (.tuple [.int 3, .int 4])
    let told := [.indexStarted, .collided ⟨.text "a", .int 1, .int 2⟩]
    List.Forall₂ (fun item r => item.coerce = .ok r) disputedItems disputedRecords ∧
      (∀ r ∈ disputedRecords, ∀ name ∈ r.names, name.isHashable) ∧
      Collision.CanBeTold usedFactory.configuration.warnOnCollision.isTruthy
        (Indexing.collisionsFrom .empty (ObjectRecord.namings disputedRecords)) ∧
      rejected.IsRejected .labelsNotIterable ∧
      (usedFactory.build disputedItems).events = told ++ [.indexFinished 3 2] ∧
      (∀ file encoding fs rest, let g := usedFactory.reading file encoding
        g.instantiate fs (disputedItems ++ rejected :: rest) =
          (g, ⟨.loadRequested :: told, .error (.objects (.badItem .labelsNotIterable))⟩) ∧
        g.lastReader = usedFactory.lastReader) ∧
      ∃ index, (usedFactory.build disputedItems).result = .ok index ∧ ∀ fs,
        (usedFactory.instantiate fs disputedItems).1.lastReader =
          some ((usedFactory.reader index).loadFile fs "x").1 := by
  intro rejected told
  have hitems : List.Forall₂ (fun item r => item.coerce = .ok r) disputedItems disputedRecords :=
    .cons rfl (.cons rfl .nil)
  have hkeys : ∀ r ∈ disputedRecords, ∀ name ∈ r.names, name.isHashable := by decide +kernel
  have hcollisions : Collision.CanBeTold usedFactory.configuration.warnOnCollision.isTruthy
      (Indexing.collisionsFrom .empty (ObjectRecord.namings disputedRecords)) := by decide +kernel
  have hrejected : rejected.IsRejected .labelsNotIterable := .labels rfl (by decide) rfl
  obtain ⟨⟨told', size, hevents, hended⟩, index, hindex, hread⟩ :=
    instantiate_of_rejected usedFactory hitems hkeys hcollisions
  have htold : (usedFactory.build disputedItems).events = told ++ [.indexFinished 3 2] :=
    LabelIndex.events_build hcollisions
  obtain ⟨rfl, -⟩ := List.append_inj' (htold.symm.trans hevents) rfl
  exact ⟨hitems, hkeys, hcollisions, hrejected, htold, fun file encoding fs rest =>
    ⟨hended _ _ hrejected file encoding fs rest, rfl⟩, index, hindex, fun fs => (hread fs).1⟩

end NeighborhoodFactory

end Vicinity
