import Mathlib.Data.Set.List
import Vicinity.Proofs.Column
import Vicinity.Proofs.Frame
import Vicinity.Proofs.Index.Build
import Vicinity.Proofs.Load.Resolution
import Vicinity.Proofs.ObjectRow

/-!
# The table of an index

A library that makes tables of columns of one kind makes a table of the entries of an index, if its
labels are texts and its identifiers are of one kind (`LabelIndex.toFrame_eq_ok`). The rows of this
table are objects with one label each, and no two of them have the same label. So their index has
the entries of the first one, in the same order, and no collisions, whatever collisions led to the
first one (`LabelIndex.build_ofEntries`, `LabelIndex.rebuilt_of_toFrame`).
-/

namespace Vicinity

/-! ## Entries that are given again -/

theorem OrderedMap.ofList_toList {β : Type} (m : OrderedMap β) : ofList m.toList = m :=
  ext_toList (toList_ofList m.distinct)

/-- Labels that are all different do not collide. -/
theorem Indexing.collisionsFrom_of_distinct {run : List (Value × Value)}
    (h : run.Pairwise fun a b => ¬ a.1.Same b.1) : collisionsFrom .empty run = [] := by
  induction run using List.reverseRecOn with
  | nil => rfl
  | append_singleton run e ih =>
    obtain ⟨hrun, -, hlast⟩ := List.pairwise_append.mp h
    have hnew : (run.filter fun a => a.1.Same e.1) = [] :=
      List.filter_eq_nil_iff.mpr fun a ha hs =>
        hlast a ha e List.mem_cons_self (of_decide_eq_true hs)
    have hnone : collision? (.ofList run) e = none := by
      rw [collision?, OrderedMap.get?_ofList, hnew]
      rfl
    rw [collisionsFrom_append, ih hrun, ← OrderedMap.ofList]
    simp [collisionsFrom, hnone]

namespace LabelIndex

open ObjectRecord

/-- The row of an entry : an object with one label. -/
def rowOfEntry (e : String × Value) : ObjectRow := ⟨e.2, .one e.1, .null⟩

theorem namings_rowOfEntry (entries : List (String × Value)) :
    namings (entries.map fun e => (rowOfEntry e).record) =
      entries.map fun e => (.text e.1, e.2) := by
  induction entries with
  | nil => rfl
  | cons e entries ih =>
    rw [List.map_cons, List.map_cons, ← ih]
    rfl

/-- Objects with one label each, all of them different, are indexed to these labels without
collisions. -/
theorem build_ofEntries [Platform] {entries : List (String × Value)} {m : OrderedMap Value}
    (h : m.toList = entries.map fun e => (.text e.1, e.2)) (warn : Bool) :
    (build ((entries.map fun e => (rowOfEntry e).record).map .record) warn).result =
      .ok ⟨m, entries.length, []⟩ := by
  have htexts : AreTexts (entries.map fun e => (rowOfEntry e).record) := by
    intro r hr name hname
    obtain ⟨e, -, rfl⟩ := List.mem_map.mp hr
    exact ⟨e.1, List.mem_singleton.mp hname⟩
  have hnone : Indexing.collisionsFrom .empty
      (namings (entries.map fun e => (rowOfEntry e).record)) = [] := by
    rw [namings_rowOfEntry, ← h, Indexing.collisionsFrom_of_distinct m.distinct]
  have htold : Collision.CanBeTold warn (Indexing.collisionsFrom .empty
      (namings (entries.map fun e => (rowOfEntry e).record))) := by
    rw [hnone]
    exact fun _ => by simp
  rw [result_build warn (coerce_map_record _) htexts htold, hnone, namings_rowOfEntry, ← h,
    OrderedMap.ofList_toList, List.length_map, List.length_map]

/-! ## Tables -/

variable {lib : TableLibrary} {index : LabelIndex}

/-- An index with labels in texts and identifiers of one kind has a table of its entries. -/
theorem toFrame_eq_ok (hlib : lib.MakesColumns)
    (hlabels : ∀ k ∈ index.entries.keys, ∃ s, k = .text s)
    (hids : Value.AreUniform index.entries.values) :
    ∃ frame, index.toFrame lib = .ok frame ∧ frame.cells =
      [("label", index.entries.keys), ("object_id", index.entries.values)] := by
  have htexts : ∀ k ∈ index.entries.keys, ColumnType.text.holds k := by
    intro k hk
    obtain ⟨s, rfl⟩ := hlabels k hk
    rfl
  have hplain : ∀ c ∈ index.columns, c.2.ArePlain := by
    simp only [columns, List.forall_mem_cons]
    exact ⟨.texts htexts, .values hids, by simp⟩
  have hheight : ∀ c ∈ index.columns, c.2.toValues.length = index.size := by
    simp [columns, ColumnCells.toValues, size, OrderedMap.size, OrderedMap.keys, OrderedMap.values]
  have hnames : (index.columns.map Prod.fst).Nodup := by
    change ["label", "object_id"].Nodup
    decide
  exact hlib index.columns hnames ⟨_, hheight⟩ hplain

section

variable {entries : List (String × Value)} {frame : Frame}

/-- Labels in texts are given by their texts. -/
theorem exists_entries (hlabels : ∀ k ∈ index.entries.keys, ∃ s, k = .text s) :
    ∃ entries : List (String × Value),
      entries.map (fun e => (.text e.1, e.2)) = index.entries.toList := by
  rw [← Set.mem_range, Set.range_list_map]
  intro e he
  obtain ⟨s, hs⟩ := hlabels e.1 (List.mem_map_of_mem he)
  exact ⟨(s, e.2), Prod.ext hs.symm rfl⟩

theorem keys_of_entries
    (h : entries.map (fun e => (.text e.1, e.2)) = index.entries.toList) :
    index.entries.keys = (entries.map rowOfEntry).map (·.cell.toValue) := by
  rw [OrderedMap.keys, ← h, List.map_map, List.map_map]
  rfl

theorem values_of_entries
    (h : entries.map (fun e => (.text e.1, e.2)) = index.entries.toList) :
    index.entries.values = (entries.map rowOfEntry).map (·.id) := by
  rw [OrderedMap.values, ← h, List.map_map, List.map_map]
  rfl

/-- The table holds the rows of the entries. -/
theorem holdsObjects_of_cells
    (h : entries.map (fun e => (.text e.1, e.2)) = index.entries.toList)
    (hcells : frame.cells =
      [("label", index.entries.keys), ("object_id", index.entries.values)]) :
    frame.HoldsObjects { id := "object_id", labels := "label" } (entries.map rowOfEntry) := by
  refine ⟨?_, ?_, ?_⟩
  · rw [Frame.column_eq, hcells]
    exact congrArg Except.ok (values_of_entries h)
  · rw [Frame.column_eq, hcells]
    exact congrArg Except.ok (keys_of_entries h)
  · rw [List.map_map, List.map_map]
    rfl

/-- The table has a row for each entry. -/
theorem length_rows_of_cells (hcells : frame.cells =
    [("label", index.entries.keys), ("object_id", index.entries.values)]) :
    frame.rows.length = index.size := by
  have hheight : ∀ values ∈ frame.columns.map Column.values, values.length = index.size := by
    rw [Frame.map_values, hcells]
    simp [OrderedMap.keys, OrderedMap.values, size, OrderedMap.size]
  have hne : frame.columns ≠ [] := by
    rintro hnil
    rw [Frame.cells, hnil] at hcells
    cases hcells
  rw [Frame.length_rows, Frame.height_of_length (List.forall_mem_map.mp hheight) hne]

/-- The table of an index holds its entries, whose objects are indexed to the same entries. -/
theorem rebuilt_of_toFrame [Platform] (hlib : lib.MakesColumns)
    (hlabels : ∀ k ∈ index.entries.keys, ∃ s, k = .text s)
    (hids : Value.AreUniform index.entries.values) :
    ∃ frame records, index.toFrame lib = .ok frame ∧
      ofFrame frame { id := "object_id", labels := "label" } = .ok records ∧
      frame.rows.length = index.size ∧ ∀ warn,
        (build (records.map .record) warn).result = .ok ⟨index.entries, index.size, []⟩ := by
  obtain ⟨frame, hframe, hcells⟩ := toFrame_eq_ok hlib hlabels hids
  obtain ⟨entries, hentries⟩ := exists_entries hlabels
  have hsize : index.size = entries.length := by
    rw [size, OrderedMap.size, ← hentries, List.length_map]
  have hrecords : (entries.map rowOfEntry).map ObjectRow.record =
      entries.map fun e => (rowOfEntry e).record := List.map_map
  refine ⟨_, _, hframe, ofFrame_eq_ok (holdsObjects_of_cells hentries hcells),
    length_rows_of_cells hcells, fun warn => ?_⟩
  rw [hsize, hrecords]
  exact build_ofEntries hentries.symm warn

end

/-! ## Built indexes -/

section

variable [Platform] {items : List SourceItem} {records : List ObjectRecord}

/-- Objects whose names are texts are indexed to labels that are texts. -/
theorem exists_build_of_areTexts (warn : Bool)
    (hitems : List.Forall₂ (fun item r => item.coerce = .ok r) items records)
    (htexts : AreTexts records)
    (htold : Collision.CanBeTold warn (Indexing.collisionsFrom .empty (namings records))) :
    ∃ index, (build items warn).result = .ok index ∧
      ∀ k ∈ index.entries.keys, ∃ s, k = .text s := by
  refine ⟨_, result_build warn hitems htexts htold, fun k hk => ?_⟩
  rw [OrderedMap.keys_ofList] at hk
  obtain ⟨e, he, rfl⟩ := List.mem_map.mp (Value.mem_of_mem_firsts hk)
  exact exists_text_of_mem_namings htexts he

/-- An index that is built of objects whose names are texts, and in which all identifiers are of one
kind, has a table, if the library makes tables of columns of one kind. The objects in the rows of
this table are indexed to the same labels in the same order with the same identifiers, without
collisions and with as many objects as labels and rows, and have the same table. So every file is
loaded with either index to the same store or the same failure, with the same warnings and counts.

If collisions are to be told then those of the first index can be. -/
theorem build_ofFrame_toFrame (hlib : lib.MakesColumns) (warn : Bool)
    (hitems : List.Forall₂ (fun item r => item.coerce = .ok r) items records)
    (htexts : AreTexts records)
    (htold : Collision.CanBeTold warn (Indexing.collisionsFrom .empty (namings records))) :
    ∃ index, (build items warn).result = .ok index ∧ (Value.AreUniform index.entries.values →
      ∃ frame records', index.toFrame lib = .ok frame ∧
        ofFrame frame { id := "object_id", labels := "label" } = .ok records' ∧
        ∀ warn', ∃ index', (build (records'.map .record) warn').result = .ok index' ∧
          index'.entries = index.entries ∧ index'.collisions = [] ∧
          index'.objectCount = index'.size ∧ index'.size = frame.rows.length ∧
          index'.toFrame lib = .ok frame ∧
          ∀ (settings : ReaderSettings) (fs : FileSystem) (path : String),
            let outcome := NeighborReader.loadFile { index, settings } fs path
            let outcome' := NeighborReader.loadFile { index := index', settings } fs path
            outcome'.2 = outcome.2 ∧ outcome'.1.last = outcome.1.last) := by
  obtain ⟨index, hindex, hlabels⟩ := exists_build_of_areTexts warn hitems htexts htold
  refine ⟨index, hindex, fun hids => ?_⟩
  obtain ⟨frame, records', hframe, hrecords, hrows, hbuild⟩ :=
    rebuilt_of_toFrame hlib hlabels hids
  refine ⟨frame, records', hframe, hrecords, fun warn' => ⟨_, hbuild warn', rfl, rfl, rfl,
    hrows.symm, hframe, fun settings fs path => ?_⟩⟩
  have hresolve : resolve? ⟨index.entries, index.size, []⟩ = index.resolve? := rfl
  exact NeighborReader.loadFile_of_resolve?_eq hresolve settings fs path

end

/-- Objects of which two share a label, and one without an identifier that has the empty label. -/
def crossedItems : List SourceItem :=
  [.record ⟨.int 2, [.text "a", .text "b"], none⟩,
    .loose (.tuple [.null, .list [.text "", .null, .text "b"]]),
    .record ⟨.int 1, [.text "a"], some (.text "x")⟩]

/-- The objects. -/
def crossedRecords : List ObjectRecord :=
  [⟨.int 2, [.text "a", .text "b"], none⟩, ⟨.null, [.text "", .text "b"], none⟩,
    ⟨.int 1, [.text "a"], some (.text "x")⟩]

theorem build_ofFrame_toFrame_crossed :
    TableLibrary.standard.MakesColumns ∧
      List.Forall₂ (fun item r => item.coerce = .ok r) crossedItems crossedRecords ∧
      AreTexts crossedRecords ∧
      Collision.CanBeTold true (Indexing.collisionsFrom .empty (namings crossedRecords)) ∧
      ∃ index, (build crossedItems true).result = .ok index ∧ index.collisions.length = 2 ∧
        Value.AreUniform index.entries.values ∧
        ∃ frame records index', index.toFrame .standard = .ok frame ∧
          ofFrame frame { id := "object_id", labels := "label" } = .ok records ∧
          (build (records.map .record) true).result = .ok index' ∧
          index'.entries.toList = [(.text "a", .int 1), (.text "b", .null), (.text "", .null),
            (.text "x", .int 1)] ∧
          index'.collisions = [] ∧ index'.objectCount = index'.size ∧
          index'.toFrame .standard = .ok frame := by
  have hlib := TableLibrary.standard_makesColumns
  have hitems : List.Forall₂ (fun item r => item.coerce = .ok r) crossedItems crossedRecords :=
    .cons rfl (.cons rfl (.cons rfl .nil))
  have htexts : AreTexts crossedRecords := by
    simp [AreTexts, crossedRecords, names, or_imp, forall_and]
  have htold : Collision.CanBeTold true
      (Indexing.collisionsFrom .empty (namings crossedRecords)) := by decide +kernel
  obtain ⟨index, hindex, hrebuilt⟩ := build_ofFrame_toFrame hlib true hitems htexts htold
  have hbuilt := result_build true hitems htexts htold
  obtain rfl := Except.ok.inj (hbuilt.symm.trans hindex)
  have huniform : Value.AreUniform (OrderedMap.ofList (namings crossedRecords)).values :=
    ⟨.integer, by decide, by decide +kernel⟩
  obtain ⟨frame, records, hframe, hrecords, hbuild⟩ := hrebuilt huniform
  obtain ⟨index', hindex', hentries, hnone, hcount, -, hframe', -⟩ := hbuild true
  refine ⟨hlib, hitems, htexts, htold, _, hindex, by decide +kernel, huniform, frame, records,
    index', hframe, hrecords, hindex', ?_, hnone, hcount, hframe'⟩
  rw [hentries]
  decide +kernel

end LabelIndex

end Vicinity
