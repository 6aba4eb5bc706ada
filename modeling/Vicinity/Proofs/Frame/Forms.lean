import Vicinity.Command.Run
import Vicinity.Proofs.ObjectRow
import Vicinity.Proofs.TableLibrary
import Vicinity.Proofs.Text.Tokens

/-!
# Two forms of a table of objects

A table of objects has a column of identifiers, one of labels and one of external identifiers
(`TableNames`, `TableRow`). It can be kept as a frame, with a list of labels in each label cell
(`TableNames.frame`), or as a text, with semicolons between the labels. An object without labels
has an empty list in the one form and an empty cell in the other, which is read as null; apart from
that the text is read as the frame (`Command.exists_readObjects_of_text`).
-/

namespace Vicinity

open Text

/-! ## Tables -/

/-- The names of the columns of a table of objects. -/
structure TableNames where
  id : String
  labels : String
  externalId : String
  isHeader : Csv.IsHeader [id, labels, externalId]
  isColumnName : TableLibrary.IsColumnName labels

/-- A row of a table of objects. -/
structure TableRow where
  id : String
  labels : List String
  externalId : Option String
  id_isCell : Csv.IsCell id
  labels_isCell : ∀ l ∈ labels, Csv.IsCell l ∧ Command.labelSeparator ∉ l.toList
  externalId_isCell : ∀ s ∈ externalId, Csv.IsCell s

namespace TableRow

/-- The label cell in a frame. -/
def listCell (r : TableRow) : Value := .list (r.labels.map .text)

/-- The label cell of a text, after it has been read. -/
def splitCell (r : TableRow) : Value := if r.labels = [] then .null else r.listCell

/-- The cell of the external identifier. -/
def externalCell (r : TableRow) : Value := r.externalId.elim .null .text

/-- The cells in a line of a text. -/
def cells (r : TableRow) : List String :=
  [r.id, ";".intercalate r.labels, r.externalId.getD ""]

/-- The cells of a line, as they are read. -/
def values (r : TableRow) : List Value :=
  [.text r.id, Csv.cellOf (";".intercalate r.labels), r.externalCell]

/-- The object in a row. -/
def record (r : TableRow) : ObjectRecord :=
  ⟨.text r.id, r.labels.map .text, r.externalId.map .text⟩

end TableRow

namespace TableNames

/-- The names in the order of the columns. -/
def toList (names : TableNames) : List String := [names.id, names.labels, names.externalId]

/-- A frame of rows with given label cells. -/
def frameWith (names : TableNames) (type : ColumnType) (cell : TableRow → Value)
    (rows : List TableRow) : Frame :=
  ⟨[⟨names.id, .text, rows.map fun r => .text r.id⟩, ⟨names.labels, type, rows.map cell⟩,
    ⟨names.externalId, .text, rows.map TableRow.externalCell⟩]⟩

/-- The frame of rows. -/
def frame (names : TableNames) (rows : List TableRow) : Frame :=
  names.frameWith (.list .text) TableRow.listCell rows

theorem distinct (names : TableNames) :
    names.id ≠ names.labels ∧ names.id ≠ names.externalId ∧ names.labels ≠ names.externalId := by
  simpa [and_assoc] using names.isHeader.nodup

section

variable (names : TableNames) (type : ColumnType) (cell : TableRow → Value) (rows : List TableRow)

theorem column_id : (names.frameWith type cell rows).column names.id =
    .ok (rows.map fun r => .text r.id) := by
  simp [frameWith, Frame.column]

theorem column_labels : (names.frameWith type cell rows).column names.labels =
    .ok (rows.map cell) := by
  simp [frameWith, Frame.column, names.distinct]

theorem column_externalId : (names.frameWith type cell rows).column names.externalId =
    .ok (rows.map TableRow.externalCell) := by
  simp [frameWith, Frame.column, names.distinct]

end

/-- The text has the rows in it. -/
def IsText (names : TableNames) (rows : List TableRow) (text : String) : Prop :=
  Csv.IsText (names.toList :: rows.map TableRow.cells) text

end TableNames

/-! ## Cells -/

namespace TableRow

/-- The labels in a cell of a text are those that were joined. -/
theorem splitCell_cellOf (r : TableRow) :
    Csv.splitCell Command.labelSeparator (Csv.cellOf (";".intercalate r.labels)) =
      r.splitCell := by
  by_cases hlabels : r.labels = []
  · rw [splitCell, if_pos hlabels, hlabels]
    rfl
  · have hsplit : splitAt ';' (";".intercalate r.labels).toList = r.labels.map String.toList :=
      splitAt_intercalate rfl hlabels fun l hl => (r.labels_isCell l hl).2
    have hne : ";".intercalate r.labels ≠ "" := by
      intro hnil
      rw [hnil] at hsplit
      obtain ⟨l, hl⟩ := List.exists_mem_of_ne_nil _ hlabels
      have hmem : l.toList ∈ r.labels.map String.toList := List.mem_map_of_mem hl
      rw [← hsplit] at hmem
      exact (r.labels_isCell l hl).1.ne_empty
        (String.toList_eq_nil_iff.mp (List.mem_singleton.mp hmem))
    rw [splitCell, if_neg hlabels, Csv.cellOf, if_neg hne, Csv.splitCell,
      Command.labelSeparator, hsplit, listCell]
    simp

theorem isRow_cells (r : TableRow) : Csv.IsRow 3 r.cells where
  length_eq := rfl
  plain s hs := by
    simp only [cells, List.mem_cons, List.not_mem_nil, or_false] at hs
    obtain rfl | rfl | rfl := hs
    · exact r.id_isCell.plain
    · exact forall_mem_intercalate rfl (by decide) fun l hl => (r.labels_isCell l hl).1.plain
    · cases hexternal : r.externalId with
      | none => simp [Csv.IsPlain]
      | some s => exact (r.externalId_isCell s hexternal).plain

theorem map_cellOf_cells (r : TableRow) : r.cells.map Csv.cellOf = r.values := by
  have hid : Csv.cellOf r.id = .text r.id := if_neg r.id_isCell.ne_empty
  have hexternal : Csv.cellOf (r.externalId.getD "") = r.externalCell := by
    rw [externalCell]
    cases hexternal : r.externalId with
    | none => rfl
    | some s => exact if_neg (r.externalId_isCell s hexternal).ne_empty
  rw [cells, List.map_cons, List.map_cons, List.map_singleton, hid, hexternal, values]

end TableRow

/-! ## Objects -/

namespace TableRow

/-- The row as one of a table, with a given cell for the external identifier. -/
def toRow (externalCell : TableRow → Value) (r : TableRow) : ObjectRow :=
  ⟨.text r.id, .several (r.labels.map some), externalCell r⟩

theorem listCell_eq (r : TableRow) :
    r.listCell = (LabelCell.several (r.labels.map some)).toValue := by
  simp [listCell, LabelCell.toValue]

theorem record_toRow (externalCell : TableRow → Value) (r : TableRow) :
    (r.toRow externalCell).record =
      ⟨.text r.id, r.labels.map .text, (externalCell r).toOption⟩ := by
  simp [toRow, ObjectRow.record, LabelCell.labels, List.reduceOption]

/-- An empty list of labels and no list of labels are the same. -/
theorem labelsOfCell_splitCell (r : TableRow) :
    ObjectRecord.labelsOfCell r.splitCell = ObjectRecord.labelsOfCell r.listCell := by
  rw [splitCell]
  split
  · rename_i hlabels
    rw [listCell, hlabels]
    rfl
  · rfl

end TableRow

namespace TableNames

variable (names : TableNames) (rows : List TableRow)

theorem sharesObjects_frame :
    (names.frameWith (.list .text) TableRow.splitCell rows).SharesObjects (names.frame rows)
      names.labels where
  others name hname := by
    have hlabels : (names.labels == name) = false := beq_eq_false_iff_ne.mpr hname.symm
    simp only [frame, frameWith, Frame.column, List.find?_cons, hlabels]
  cells := by
    refine ⟨_, _, names.column_labels _ _ rows, names.column_labels _ _ rows, ?_⟩
    exact List.forall₂_map_left_iff.mpr (List.forall₂_map_right_iff.mpr
      (List.forall₂_same.mpr fun r _ => r.labelsOfCell_splitCell))

theorem holdsObjects_frame {externalId : Option String} {externalCell : TableRow → Value}
    (h : externalId.elim (.ok (rows.map fun _ => .null)) (names.frame rows).column =
      .ok (rows.map externalCell)) :
    (names.frame rows).HoldsObjects ⟨names.id, names.labels, externalId⟩
      (rows.map (TableRow.toRow externalCell)) where
  ids := by
    rw [List.map_map]
    exact names.column_id _ _ rows
  cells := by
    rw [List.map_map]
    refine (names.column_labels _ _ rows).trans (congrArg Except.ok ?_)
    exact List.map_congr_left fun r _ => r.listCell_eq
  externalIds := by
    rw [List.map_map, List.map_map]
    exact h

/-- The objects in a frame, with their external identifiers or without. -/
theorem ofFrame_frame :
    ObjectRecord.ofFrame (names.frame rows) ⟨names.id, names.labels, some names.externalId⟩ =
        .ok (rows.map TableRow.record) ∧
      ObjectRecord.ofFrame (names.frame rows) ⟨names.id, names.labels, none⟩ =
        .ok (rows.map fun r => { r.record with externalId := none }) := by
  constructor
  · have hexternal : (names.frame rows).HoldsObjects
        ⟨names.id, names.labels, some names.externalId⟩
        (rows.map (TableRow.toRow TableRow.externalCell)) :=
      names.holdsObjects_frame rows (names.column_externalId _ _ rows)
    rw [ObjectRecord.ofFrame_eq_ok hexternal, List.map_map]
    refine congrArg Except.ok (List.map_congr_left fun r _ => (r.record_toRow _).trans ?_)
    rw [TableRow.record, TableRow.externalCell]
    cases r.externalId <;> rfl
  · have hnone : (names.frame rows).HoldsObjects ⟨names.id, names.labels, none⟩
        (rows.map (TableRow.toRow fun _ => .null)) :=
      names.holdsObjects_frame rows rfl
    rw [ObjectRecord.ofFrame_eq_ok hnone, List.map_map]
    exact congrArg Except.ok (List.map_congr_left fun r _ => r.record_toRow _)

end TableNames

/-! ## Reading -/

namespace TableNames

/-- The frame of a text before its label cells are split. -/
theorem frameOfRows_eq (names : TableNames) (rows : List TableRow) :
    Csv.frameOfRows names.toList (rows.map TableRow.values) =
      names.frameWith .text (fun r => Csv.cellOf (";".intercalate r.labels)) rows := by
  simp [Csv.frameOfRows, toList, frameWith, TableRow.values, Function.comp_def]

end TableNames

/-- A path leads to the rows as a text. -/
structure LeadsToText (fs : FileSystem) (path : String) (names : TableNames)
    (rows : List TableRow) : Prop where
  suffix : (Path.suffix path).map Char.toLower ≠ Command.frameSuffix
  isPlain : Path.IsPlain path
  read : ∃ text, names.IsText rows text ∧ fs.read path = .ok (Utf8.encode text.toList)

/-- A path leads to a table with the rows in it. -/
structure LeadsToFrame (lib : TableLibrary) (fs : FileSystem) (path : String) (names : TableNames)
    (rows : List TableRow) : Prop where
  suffix : (Path.suffix path).map Char.toLower = Command.frameSuffix
  readFrame : ∃ f, lib.readFrame fs path = .ok f ∧ f.cells = (names.frame rows).cells

namespace Command

variable {lib : TableLibrary} {fs : FileSystem} {path : String} {names : TableNames}
  {rows : List TableRow}

/-- The table that is read of a text has its rows, with label cells that are split. -/
theorem exists_readObjects_of_text (hreads : lib.ReadsTexts) (hsplits : lib.SplitsTexts)
    (h : LeadsToText fs path names rows) :
    ∃ f, readObjects lib fs path (.value names.labels) = .ok f ∧
      f.cells = (names.frameWith (.list .text) TableRow.splitCell rows).cells := by
  obtain ⟨text, htext, hread⟩ := h.read
  have hrows : ∀ row ∈ rows.map TableRow.cells, Csv.IsRow names.toList.length row :=
    List.forall_mem_map.mpr fun r _ => r.isRow_cells
  have hvalues : (rows.map TableRow.cells).map (fun row => row.map Csv.cellOf) =
      rows.map TableRow.values := by
    rw [List.map_map]
    exact List.map_congr_left fun r _ => r.map_cellOf_cells
  let f := names.frameWith .text (fun r => Csv.cellOf (";".intercalate r.labels)) rows
  have hf : lib.readTexts fs path = .ok f := by
    rw [hreads h.isPlain hread names.isHeader hrows htext, hvalues]
    exact congrArg Except.ok (names.frameOfRows_eq rows)
  have hcolumn : ∃ c ∈ f.columns, c.name = names.labels ∧ c.type = .text := by
    simp [f, TableNames.frameWith]
  obtain ⟨g, hg, hcells⟩ :=
    hsplits labelSeparator names.labels f names.isColumnName names.isHeader.nodup hcolumn
  refine ⟨g, ?_, hcells.trans ?_⟩
  · rw [readObjects, if_neg h.suffix, hf]
    exact congrArg (Except.mapError Failure.table) hg
  · simp [f, TableNames.frameWith, Frame.cells, names.distinct, names.distinct.2.2.symm,
      TableRow.splitCell_cellOf, Function.comp_def]

theorem exists_readObjects_of_frame (h : LeadsToFrame lib fs path names rows) (given : Given) :
    ∃ f, readObjects lib fs path given = .ok f ∧ f.cells = (names.frame rows).cells := by
  obtain ⟨f, hf, hcells⟩ := h.readFrame
  refine ⟨f, ?_, hcells⟩
  rw [readObjects, if_pos h.suffix, hf]
  rfl

end Command

end Vicinity
