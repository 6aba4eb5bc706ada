import Vicinity.Proofs.Command.Run
import Vicinity.Proofs.Frame.Forms

/-!
# The command on two forms of a table

The command learns of the table of objects only what objects are in it, so tables of the same
objects are as good as each other (`Command.run_congr`). A text with joined labels and a frame with
lists of labels are such tables : whatever the other options and files are, the command comes to the
same end with both (`Command.run_of_forms`).
-/

namespace Vicinity

namespace Command

open Text

/-! ## Columns -/

variable {lib : TableLibrary} {fs : FileSystem} {a : Arguments} {f g : Frame} {labels : String}

/-- A column is there in one frame if it is there in the other. -/
theorem columnOf_congr (h : f.SharesObjects g labels) (given : Given) :
    columnOf lib f given = columnOf lib g given := by
  cases given with
  | nothing | blank => rfl
  | value name =>
    by_cases hname : name = labels
    · obtain ⟨cells, cells', hcells, hcells', -⟩ := h.cells
      rw [columnOf, columnOf, hname, hcells, hcells']
      rfl
    · rw [columnOf, columnOf, h.others name hname]

theorem columnsOf_congr (h : f.SharesObjects g labels) (a : Arguments) :
    columnsOf lib a f = columnsOf lib a g := by
  simp only [columnsOf, columnOf_congr h]

theorem eq_value_of_columnOf {given : Given} {name : String}
    (h : columnOf lib f given = .ok name) : given = .value name := by
  cases given with
  | nothing | blank => cases h
  | value name' =>
    obtain ⟨_, -, rfl⟩ := exists_of_map_eq_ok h
    rfl

/-- The columns are the ones that are given. -/
theorem eq_value_of_columnsOf {columns : ObjectColumns} (h : columnsOf lib a f = .ok columns) :
    a.idColumn = .value columns.id ∧ a.labelColumn = .value columns.labels ∧
      ∀ name ∈ columns.externalId, a.externalIdColumn = .value name := by
  obtain ⟨id, hid, h⟩ := exists_of_bind_eq_ok h
  obtain ⟨labels, hlabels, h⟩ := exists_of_bind_eq_ok h
  cases hexternal : a.externalIdColumn with
  | nothing =>
    rw [hexternal] at h
    cases h
    exact ⟨eq_value_of_columnOf hid, eq_value_of_columnOf hlabels, fun name hname => by cases hname⟩
  | blank =>
    rw [hexternal] at h
    cases h
  | value given =>
    rw [hexternal] at h
    obtain ⟨name, hname, h⟩ := exists_of_bind_eq_ok h
    cases h
    refine ⟨eq_value_of_columnOf hid, eq_value_of_columnOf hlabels, fun name' hname' => ?_⟩
    obtain rfl := Option.some.inj hname'
    exact eq_value_of_columnOf hname

theorem columnOf_eq_ok {name : String} {values : List Value} (h : f.column name = .ok values) :
    columnOf lib f (.value name) = .ok name := by
  rw [columnOf, h]
  rfl

/-- All columns of a table are found, and the one of external identifiers is left out if it is not
asked for. -/
theorem columnsOf_frame {names : TableNames} {rows : List TableRow}
    (hf : f.cells = (names.frame rows).cells)
    (hid : a.idColumn = .value names.id) (hlabels : a.labelColumn = .value names.labels) :
    (a.externalIdColumn = .value names.externalId →
        columnsOf lib a f = .ok ⟨names.id, names.labels, some names.externalId⟩) ∧
      (a.externalIdColumn = .nothing →
        columnsOf lib a f = .ok ⟨names.id, names.labels, none⟩) := by
  have hcolumn := Frame.column_congr hf
  have hidColumn : columnOf lib f (.value names.id) = .ok names.id :=
    columnOf_eq_ok ((congrFun hcolumn _).trans (names.column_id _ _ rows))
  have hlabelColumn : columnOf lib f (.value names.labels) = .ok names.labels :=
    columnOf_eq_ok ((congrFun hcolumn _).trans (names.column_labels _ _ rows))
  have hexternalColumn : columnOf lib f (.value names.externalId) = .ok names.externalId :=
    columnOf_eq_ok ((congrFun hcolumn _).trans (names.column_externalId _ _ rows))
  constructor
  · intro hexternal
    rw [columnsOf, hid, hlabels, hexternal, hidColumn, hlabelColumn]
    simp only [hexternalColumn]
    rfl
  · intro hexternal
    rw [columnsOf, hid, hlabels, hexternal, hidColumn, hlabelColumn]
    rfl

/-! ## Objects -/

/-- Tables that share their objects give the same objects, unless the label column is taken for
another one. -/
theorem objectRecords_congr {path path' : String}
    (hread : readObjects lib fs (Path.normalized path) a.labelColumn = .ok f)
    (hread' : readObjects lib fs (Path.normalized path') a.labelColumn = .ok g)
    (h : f.SharesObjects g labels) (hlabels : a.labelColumn = .value labels)
    (hid : a.idColumn ≠ .value labels) (hexternal : a.externalIdColumn ≠ .value labels) :
    objectRecords lib fs { a with objects := .value path } =
      objectRecords lib fs { a with objects := .value path' } := by
  simp only [objectRecords, hread, hread']
  change columnsOf lib a f >>= _ = columnsOf lib a g >>= _
  rw [columnsOf_congr h]
  cases hcolumns : columnsOf lib a g with
  | error e => rfl
  | ok columns =>
    obtain ⟨hid', hlabels', hexternal'⟩ := eq_value_of_columnsOf hcolumns
    obtain rfl : labels = columns.labels := Given.value.inj (hlabels.symm.trans hlabels')
    have hsame : ObjectRecord.ofFrame f columns = ObjectRecord.ofFrame g columns :=
      ObjectRecord.ofFrame_congr h (fun heq => hid (by rw [hid', heq]))
        fun heq => hexternal (hexternal' _ heq)
    exact congrArg (Except.mapError Failure.frame) hsame

/-- The command learns of the table only the objects in it. -/
theorem run_congr [Platform] {objects objects' : Given}
    (h : objectRecords lib fs { a with objects := objects } =
      objectRecords lib fs { a with objects := objects' }) :
    run lib fs { a with objects := objects } = run lib fs { a with objects := objects' } := by
  have hconfigured (c : Configuration) : runConfigured lib fs { a with objects := objects } c =
      runConfigured lib fs { a with objects := objects' } c := by
    simp only [runConfigured, h]
    rfl
  simp only [run, hconfigured]
  rfl

/-- A text with joined labels and a frame with lists of labels give the same objects. With these
the command comes to the same end, whatever its other options, the configuration and the neighbor
file are : the same code, the same output, the same files and the same events. -/
theorem run_of_forms [Platform] {names : TableNames} {rows : List TableRow}
    {textPath framePath : String} (hreads : lib.ReadsTexts) (hsplits : lib.SplitsTexts)
    (htext : LeadsToText fs (Path.normalized textPath) names rows)
    (hframe : LeadsToFrame lib fs (Path.normalized framePath) names rows)
    (hlabels : a.labelColumn = .value names.labels) (hid : a.idColumn ≠ .value names.labels)
    (hexternal : a.externalIdColumn ≠ .value names.labels) :
    let onText := { a with objects := .value textPath }
    let onFrame := { a with objects := .value framePath }
    objectRecords lib fs onText = objectRecords lib fs onFrame ∧
      (a.idColumn = .value names.id →
        (a.externalIdColumn = .value names.externalId →
          objectRecords lib fs onText = .ok (rows.map TableRow.record)) ∧
        (a.externalIdColumn = .nothing →
          objectRecords lib fs onText =
            .ok (rows.map fun r => { r.record with externalId := none }))) ∧
      run lib fs onText = run lib fs onFrame := by
  intro onText onFrame
  obtain ⟨f, hf, hfcells⟩ := exists_readObjects_of_text hreads hsplits htext
  obtain ⟨g, hg, hgcells⟩ := exists_readObjects_of_frame hframe a.labelColumn
  rw [← hlabels] at hf
  have hshares : f.SharesObjects g names.labels :=
    (names.sharesObjects_frame rows).congr hfcells hgcells
  have hsame : objectRecords lib fs onText = objectRecords lib fs onFrame :=
    objectRecords_congr hf hg hshares hlabels hid hexternal
  have hrecords {columns : ObjectColumns} {records : List ObjectRecord}
      (hcolumns : columnsOf lib a g = .ok columns)
      (hobjects : ObjectRecord.ofFrame (names.frame rows) columns = .ok records) :
      objectRecords lib fs onText = .ok records := by
    rw [← ObjectRecord.ofFrame_of_cells hgcells] at hobjects
    exact hsame.trans (objectRecords_eq_ok_iff.mpr
      ⟨_, ⟨framePath, rfl, hg⟩, columns, hcolumns, hobjects⟩)
  obtain ⟨hwith, hwithout⟩ := names.ofFrame_frame rows
  refine ⟨hsame, fun hid => ?_, run_congr hsame⟩
  obtain ⟨hcolumns, hcolumns'⟩ := columnsOf_frame hgcells hid hlabels
  exact ⟨fun hexternal => hrecords (hcolumns hexternal) hwith,
    fun hexternal => hrecords (hcolumns' hexternal) hwithout⟩

/-- The names of the columns of a table of cities. -/
def cityNames : TableNames where
  id := "id"
  labels := "labels"
  externalId := "eid"
  isHeader :=
    { width := by decide
      plain := by decide
      nodup := by decide
      head?_ne := by decide
      not_isCompressed := by decide +kernel }
  isColumnName := by decide

/-- A city with two names, and one that has only an external identifier. -/
def cityRows : List TableRow :=
  [{ id := "o1", labels := ["berlin", "BER"], externalId := none,
     id_isCell := ⟨by decide, by decide⟩
     labels_isCell := by
       intro l hl
       obtain rfl | rfl : l = "berlin" ∨ l = "BER" := by simpa using hl
       all_goals exact ⟨⟨by decide, by decide⟩, by decide⟩
     externalId_isCell := fun s hs => by cases hs },
   { id := "o2", labels := [], externalId := some "HH",
     id_isCell := ⟨by decide, by decide⟩
     labels_isCell := fun l hl => by cases hl
     externalId_isCell := fun s hs => by
       obtain rfl := Option.some.inj hs
       exact ⟨by decide, by decide⟩ }]

/-- The cities as a text, with a carriage return at the end of one of its lines. -/
def cityText : String := "id,labels,eid\r\no1,berlin;BER,\no2,,HH\n"

/-- The cities in both forms, and a neighbor file. -/
def cityFiles : FileSystem :=
  ⟨[], [(["o.csv"], .file (Utf8.encode cityText.toList)),
    (["o.parquet"], .file (cityNames.frame cityRows).toBytes),
    (["n"], .file (Utf8.encode "berlin HH\n".toList))]⟩

theorem isText_cityText : cityNames.IsText cityRows cityText := by
  refine ⟨["id,labels,eid\r", "o1,berlin;BER,", "o2,,HH"], ?_, .inr (by decide)⟩
  refine .cons (.inr (by decide)) (.cons (.inl (by decide)) (.cons (.inl (by decide)) .nil))

theorem leadsToText_city : LeadsToText cityFiles "o.csv" cityNames cityRows where
  suffix := by decide +kernel
  isPlain := by decide
  read := ⟨cityText, isText_cityText, rfl⟩

theorem isReadable_city : (cityNames.frame cityRows).IsReadable where
  isTable := by
    refine Frame.isTable_of_fits (n := 2) fun c hc => ?_
    obtain rfl | rfl | rfl : c = _ ∨ c = _ ∨ c = _ := by
      simpa [TableNames.frame, TableNames.frameWith] using hc
    all_goals exact ⟨rfl, by decide⟩
  types := by
    simp only [TableNames.frame, TableNames.frameWith, List.forall_mem_cons]
    exact ⟨.text _ _, .list (List.forall_mem_singleton.mpr (.text _ _)), .text _ _, by simp⟩
  values := by
    have hlist (labels : List String) :
        Json.IsReadable (Json.maxDepth - 4) (.list (labels.map .text)) :=
      .list (List.forall_mem_map.mpr fun l _ => .text _ l)
    simp only [TableNames.frame, TableNames.frameWith, cityRows, List.map_cons, List.map_nil,
      List.forall_mem_cons]
    exact ⟨⟨.text _ _, .text _ _, by simp⟩, ⟨hlist _, hlist _, by simp⟩,
      ⟨.null _, .text _ _, by simp⟩, by simp⟩

theorem leadsToFrame_city : LeadsToFrame .standard cityFiles "o.parquet" cityNames cityRows where
  suffix := by decide +kernel
  readFrame := ⟨_, ObjectTable.readFrame_eq_ok (by decide) rfl isReadable_city, rfl⟩

theorem run_of_forms_city :
    let a : Arguments := { neighbors := .value "n", externalIdColumn := .value "eid" }
    LeadsToText cityFiles (Path.normalized "o.csv") cityNames cityRows ∧
      LeadsToFrame .standard cityFiles (Path.normalized "o.parquet") cityNames cityRows ∧
      objectRecords .standard cityFiles { a with objects := .value "o.csv" } =
        .ok [⟨.text "o1", [.text "berlin", .text "BER"], none⟩,
          ⟨.text "o2", [], some (.text "HH")⟩] ∧
      run .standard cityFiles { a with objects := .value "o.csv" } =
        run .standard cityFiles { a with objects := .value "o.parquet" } := by
  intro a
  have htext : LeadsToText cityFiles (Path.normalized "o.csv") cityNames cityRows := by
    have hpath : Path.normalized "o.csv" = "o.csv" := by decide
    rw [hpath]
    exact leadsToText_city
  have hframe : LeadsToFrame .standard cityFiles (Path.normalized "o.parquet") cityNames
      cityRows := by
    have hpath : Path.normalized "o.parquet" = "o.parquet" := by decide
    rw [hpath]
    exact leadsToFrame_city
  obtain ⟨-, hrecords, hrun⟩ := run_of_forms (a := a) TableLibrary.standard_readsTexts
    TableLibrary.standard_splitsTexts htext hframe rfl (by decide) (by decide)
  exact ⟨htext, hframe, (hrecords rfl).1 rfl, hrun⟩

end Command

end Vicinity
