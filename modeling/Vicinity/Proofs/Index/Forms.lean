import Vicinity.Proofs.Index.Pass
import Vicinity.Proofs.Neighborhood
import Vicinity.Proofs.ObjectRow

/-!
# Forms of a source of objects

Indexing asks an item for nothing but the object that it stands for
(`LabelIndex.build_eq_of_coerce`). So objects can be given as rows of a frame, as tuples of cells
or as records, and as any of these next to each other, without a difference to the index, to what
is told, or to any load (`LabelIndex.build_of_isGivenBy`).
-/

namespace Vicinity

/-! ## Items and their records -/

namespace LabelIndex

variable [Platform] {items : List SourceItem} {records : List ObjectRecord}

/-- Items are indexed as the objects that they stand for. -/
theorem build_eq_of_coerce (h : List.Forall₂ (fun item r => item.coerce = .ok r) items records)
    (warn : Bool) : build items warn = build (records.map .record) warn := by
  have hitems (s : Indexing) :
      Indexing.items warn s items = Indexing.items warn s (records.map .record) := by
    induction h generalizing s with
    | nil => rfl
    | @cons item r items records hitem _ ih =>
      have hstep : s.item warn item = s.item warn (.record r) := by
        rw [Indexing.item, Indexing.item, hitem]
        rfl
      rw [Indexing.items, Indexing.items, List.map_cons, List.foldlM_cons, List.foldlM_cons, hstep]
      exact congrArg _ (funext ih)
  rw [build, build, hitems]

/-- Objects whose names can be keys are all indexed, if their collisions can be told. -/
theorem exists_build_of_isHashable {warn : Bool}
    (hnames : ∀ r ∈ records, ∀ name ∈ r.names, name.isHashable)
    (htold : Collision.CanBeTold warn
      (Indexing.collisionsFrom .empty (ObjectRecord.namings records))) :
    ∃ index, (build (records.map .record) warn).result = .ok index ∧
      index.objectCount = records.length := by
  rw [build, Indexing.items_of_records (ObjectRecord.coerce_map_record records) hnames _ htold]
  exact ⟨_, rfl, by simp⟩

end LabelIndex

theorem NeighborhoodFactory.load_congr [Platform] {objects objects' : List SourceItem}
    (h : ∀ warn, LabelIndex.build objects warn = LabelIndex.build objects' warn)
    (f : NeighborhoodFactory) (fs : FileSystem) : f.load fs objects = f.load fs objects' := by
  rw [load, load, h]

/-! ## Rows -/

namespace LabelIndex

/-- Objects can be read from the rows of a frame, and given in any mix of records and tuples of the
cells of these rows. In all forms they are indexed to the same labels, identifiers, number of
objects and collisions, or to the same fault, and the same is told of it. A fault can only come of
an external identifier that cannot be a key, or of a collision that is to be told and cannot be. So
every load comes to the same. -/
theorem build_of_isGivenBy [Platform] {f : Frame} {columns : ObjectColumns} {rows : List ObjectRow}
    (h : f.HoldsObjects columns rows) :
    ∃ records, ObjectRecord.ofFrame f columns = .ok records ∧
      ((∀ r ∈ rows, r.externalId.isHashable) → ∀ warn,
        Collision.CanBeTold warn
          (Indexing.collisionsFrom .empty (ObjectRecord.namings records)) → ∃ index,
        (build (records.map .record) warn).result = .ok index ∧
          index.objectCount = rows.length) ∧
      ∀ items, List.Forall₂ ObjectRow.IsGivenBy rows items →
        (∀ warn, build items warn = build (records.map .record) warn) ∧
        ∀ (factory : NeighborhoodFactory) (fs : FileSystem),
          factory.load fs items = factory.load fs (records.map .record) := by
  refine ⟨_, ObjectRecord.ofFrame_eq_ok h, fun hkeys warn htold => ?indexed,
    fun items hitems => ?given⟩
  case indexed =>
    rw [← List.length_map ObjectRow.record]
    refine exists_build_of_isHashable (fun r hr name hname => ?_) htold
    obtain ⟨row, hrow, rfl⟩ := List.mem_map.mp hr
    obtain hname | hname := List.mem_append.mp hname
    · have hexternal := hkeys row hrow
      cases hid : row.externalId <;> simp_all [ObjectRow.record, Value.toOption]
    · obtain ⟨label, -, rfl⟩ := List.mem_map.mp hname
      rfl
  case given =>
    have hcoerce : List.Forall₂ (fun item r => item.coerce = .ok r) items
        (rows.map ObjectRow.record) :=
      List.forall₂_map_right_iff.mpr (hitems.flip.imp fun _ _ => ObjectRow.IsGivenBy.coerce_eq_ok)
    have hbuild := build_eq_of_coerce hcoerce
    exact ⟨hbuild, NeighborhoodFactory.load_congr hbuild⟩

/-- Rows that share labels, with a null among the labels of the first one and no labels in the last
one. -/
def sharedRows : List ObjectRow :=
  [⟨.int 1, .several [some "a", none, some ""], .null⟩, ⟨.int 2, .several [some "a"], .text "x"⟩,
    ⟨.null, .several [], .text ""⟩, ⟨.int 4, .blank, .null⟩]

/-- The rows as a frame. -/
def sharedFrame : Frame :=
  ⟨[⟨"id", .integer, sharedRows.map (·.id)⟩, ⟨"x", .text, sharedRows.map (·.externalId)⟩,
    ⟨"labels", .list .text, sharedRows.map (·.cell.toValue)⟩]⟩

/-- The objects, the second one as a record and the last one without an external identifier. -/
def sharedForms : List SourceItem :=
  [.loose (.tuple [.int 1, .list [.text "a", .null, .text ""], .null]),
    .record ⟨.int 2, [.text "a"], some (.text "x")⟩,
    .loose (.tuple [.null, .list [], .text ""]), .loose (.tuple [.int 4, .null])]

theorem build_of_isGivenBy_shared :
    sharedFrame.HoldsObjects { externalId := some "x" } sharedRows ∧
      List.Forall₂ ObjectRow.IsGivenBy sharedRows sharedForms ∧
      ∃ records, ObjectRecord.ofFrame sharedFrame { externalId := some "x" } = .ok records ∧
        (build sharedForms true).events = (build (records.map .record) true).events ∧
        ∃ index, (build sharedForms true).result = .ok index ∧ index.objectCount = 4 ∧
          index.collisions = [⟨.text "a", .int 1, .int 2⟩, ⟨.text "", .int 1, .null⟩] := by
  have h : sharedFrame.HoldsObjects { externalId := some "x" } sharedRows := ⟨rfl, rfl, rfl⟩
  have hforms : List.Forall₂ ObjectRow.IsGivenBy sharedRows sharedForms :=
    .cons .triple (.cons .record (.cons .triple (.cons (.pair rfl) .nil)))
  obtain ⟨records, hrecords, hindexed, hgiven⟩ := build_of_isGivenBy h
  have hrows : records = sharedRows.map ObjectRow.record :=
    Except.ok.inj (hrecords.symm.trans (ObjectRecord.ofFrame_eq_ok h))
  have htold : Collision.CanBeTold true
      (Indexing.collisionsFrom .empty (ObjectRecord.namings records)) := by
    rw [hrows]
    decide +kernel
  obtain ⟨index, hindex, hcount⟩ := hindexed (by decide) true htold
  have hbuild := (hgiven sharedForms hforms).1 true
  rw [← hbuild] at hindex
  have hcollisions : (build sharedForms true).result.map (·.collisions) =
      .ok [⟨.text "a", .int 1, .int 2⟩, ⟨.text "", .int 1, .null⟩] := by decide +kernel
  rw [hindex] at hcollisions
  exact ⟨h, hforms, records, hrecords, by rw [hbuild], index, hindex, hcount,
    Except.ok.inj hcollisions⟩

end LabelIndex

end Vicinity
