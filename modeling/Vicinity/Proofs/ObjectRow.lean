import Mathlib.Data.List.Forall2
import Mathlib.Data.List.ReduceOption
import Vicinity.Proofs.Frame

/-!
# Rows of objects

A row of a table of objects has an identifier, a cell of labels and an external identifier. A cell
of labels is empty, holds one label, or several of which some can be null (`LabelCell`). Such a row
is always an object, whatever its identifiers are (`ObjectRow.ofCells_eq_ok`), so a frame whose
columns hold rows of this form can be read (`ObjectRecord.ofFrame_eq_ok`). The same object can be
given as a record, as a tuple of the three cells, or of the first two if there is no external
identifier (`ObjectRow.IsGivenBy`).
-/

namespace Vicinity

/-- A record stands for itself. -/
theorem ObjectRecord.coerce_map_record (records : List ObjectRecord) :
    List.Forall₂ (fun item r => item.coerce = .ok r) (records.map SourceItem.record) records :=
  List.forall₂_map_left_iff.mpr (List.forall₂_same.mpr fun _ _ => rfl)

/-! ## Cells of labels -/

/-- What a cell of labels holds. -/
inductive LabelCell where
  | blank
  | one (label : String)
  | several (labels : List (Option String))

namespace LabelCell

/-- The cell as a value. -/
def toValue : LabelCell → Value
  | blank => .null
  | one label => .text label
  | several labels => .list (labels.map fun l => l.elim .null .text)

/-- The labels in the cell. -/
def labels : LabelCell → List String
  | blank => []
  | one label => [label]
  | several labels => labels.reduceOption

theorem filter_ne_null (labels : List (Option String)) :
    (labels.map fun l => l.elim Value.null .text).filter (· ≠ .null) =
      labels.reduceOption.map .text := by
  induction labels with
  | nil => rfl
  | cons l labels ih =>
    cases l with
    | none => rw [List.map_cons, List.filter_cons_of_neg (by simp), ih,
        List.reduceOption_cons_of_none]
    | some label => rw [List.map_cons, List.filter_cons_of_pos (by simp), ih,
        List.reduceOption_cons_of_some, List.map_cons, Option.elim_some]

theorem labelsOfCell_toValue (c : LabelCell) :
    ObjectRecord.labelsOfCell c.toValue = .ok (c.labels.map .text) := by
  cases c with
  | blank | one => rfl
  | several labels => exact congrArg Except.ok (filter_ne_null labels)

end LabelCell

/-! ## Rows -/

/-- A row of a table of objects. -/
structure ObjectRow where
  id : Value
  cell : LabelCell
  /-- Null if there is none. -/
  externalId : Value

namespace ObjectRow

/-- The object in a row. -/
def record (r : ObjectRow) : ObjectRecord :=
  ⟨r.id, r.cell.labels.map .text, r.externalId.toOption⟩

theorem ofCells_eq_ok (r : ObjectRow) :
    ObjectRecord.ofCells r.id r.cell.toValue r.externalId = .ok r.record := by
  rw [ObjectRecord.ofCells, r.cell.labelsOfCell_toValue]
  rfl

/-- The ways in which the object in a row can be given. -/
inductive IsGivenBy (r : ObjectRow) : SourceItem → Prop
  | record : IsGivenBy r (.record r.record)
  | triple : IsGivenBy r (.loose (.tuple [r.id, r.cell.toValue, r.externalId]))
  | pair (h : r.externalId = .null) : IsGivenBy r (.loose (.tuple [r.id, r.cell.toValue]))

theorem IsGivenBy.coerce_eq_ok {r : ObjectRow} {item : SourceItem} (h : r.IsGivenBy item) :
    item.coerce = .ok r.record := by
  cases h with
  | record => rfl
  | triple => exact r.ofCells_eq_ok
  | pair hnull =>
    have hcells := r.ofCells_eq_ok
    rwa [hnull] at hcells

end ObjectRow

/-! ## Columns of rows -/

/-- The columns of a frame hold rows. Without a column of external identifiers there are none. -/
structure Frame.HoldsObjects (f : Frame) (columns : ObjectColumns) (rows : List ObjectRow) :
    Prop where
  ids : f.column columns.id = .ok (rows.map (·.id))
  cells : f.column columns.labels = .ok (rows.map (·.cell.toValue))
  externalIds : columns.externalId.elim (.ok (rows.map fun _ => .null)) f.column =
    .ok (rows.map (·.externalId))

/-- The frames differ at most in the cells of one column, which hold the same labels. -/
structure Frame.SharesObjects (f g : Frame) (labels : String) : Prop where
  others : ∀ name, name ≠ labels → f.column name = g.column name
  cells : ∃ cells cells', f.column labels = .ok cells ∧ g.column labels = .ok cells' ∧
    List.Forall₂ (fun c c' => ObjectRecord.labelsOfCell c = ObjectRecord.labelsOfCell c')
      cells cells'

/-- Sharing objects does not depend on the types of the columns. -/
theorem Frame.SharesObjects.congr {f f' g g' : Frame} {labels : String}
    (h : f.SharesObjects g labels) (hf : f'.cells = f.cells) (hg : g'.cells = g.cells) :
    f'.SharesObjects g' labels where
  others name hname := by
    rw [Frame.column_congr hf, Frame.column_congr hg, h.others name hname]
  cells := by
    rw [Frame.column_congr hf, Frame.column_congr hg]
    exact h.cells

namespace ObjectRecord

theorem ofColumns_eq_ok (rows : List ObjectRow) :
    ofColumns (rows.map (·.id)) (rows.map (·.cell.toValue)) (rows.map (·.externalId)) =
      .ok (rows.map ObjectRow.record) := by
  induction rows with
  | nil => rfl
  | cons r rows ih => simp only [List.map_cons, ofColumns, r.ofCells_eq_ok, ih]

/-- The objects in a frame are those of its rows. -/
theorem ofFrame_eq_ok {f : Frame} {columns : ObjectColumns} {rows : List ObjectRow}
    (h : f.HoldsObjects columns rows) :
    ofFrame f columns = .ok (rows.map ObjectRow.record) := by
  have hexternal := h.externalIds
  rw [ofFrame, h.ids, h.cells]
  cases hname : columns.externalId with
  | none =>
    rw [hname] at hexternal
    have hnone : (rows.map (·.id)).map (fun _ => Value.null) = rows.map (·.externalId) := by
      rw [List.map_map]
      exact Except.ok.inj hexternal
    have hrows := ofColumns_eq_ok rows
    rwa [← hnone] at hrows
  | some name =>
    rw [hname] at hexternal
    change f.column name = _ at hexternal
    simp only [hexternal]
    exact ofColumns_eq_ok rows

/-- Of a label cell nothing counts but its labels. -/
theorem ofColumns_congr {cells cells' : List Value}
    (h : List.Forall₂ (fun c c' => labelsOfCell c = labelsOfCell c') cells cells')
    (ids externalIds : List Value) :
    ofColumns ids cells externalIds = ofColumns ids cells' externalIds := by
  induction h generalizing ids externalIds with
  | nil => cases ids <;> rfl
  | cons hcell _ ih =>
    match ids, externalIds with
    | [], _ => rfl
    | _ :: _, [] => rfl
    | id :: ids, externalId :: externalIds => simp only [ofColumns, ofCells, hcell, ih]

/-- Frames that differ only in how label cells are written have the same objects in them. -/
theorem ofFrame_congr {f g : Frame} {columns : ObjectColumns}
    (h : f.SharesObjects g columns.labels) (hid : columns.id ≠ columns.labels)
    (hexternal : columns.externalId ≠ some columns.labels) :
    ofFrame f columns = ofFrame g columns := by
  obtain ⟨cells, cells', hcells, hcells', hsame⟩ := h.cells
  rw [ofFrame, ofFrame, h.others _ hid, hcells, hcells']
  cases g.column columns.id with
  | error f => rfl
  | ok ids =>
    cases hname : columns.externalId with
    | none => exact ofColumns_congr hsame ids _
    | some name =>
      have hother := h.others name fun heq => hexternal (by rw [hname, heq])
      change f.column name >>= _ = g.column name >>= _
      rw [hother]
      exact bind_congr fun externalIds => ofColumns_congr hsame ids externalIds

/-- The objects in a frame do not depend on the types of its columns. -/
theorem ofFrame_of_cells {f g : Frame} {columns : ObjectColumns} (h : f.cells = g.cells) :
    ofFrame f columns = ofFrame g columns := by
  simp only [ofFrame, Frame.column_congr h]

end ObjectRecord

end Vicinity
