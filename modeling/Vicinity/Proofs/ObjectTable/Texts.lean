import Vicinity.Proofs.Csv
import Vicinity.Proofs.Frame.Json
import Vicinity.Proofs.Stream
import Vicinity.TableLibrary.Standard

/-!
# Files that the standard library reads

A plain path stands for the file that it leads to (`FileSystem.expand_of_isPlain`). If the file
holds a text without quotes, its rows are read (`TableLibrary.standard_readsTexts`), and the columns
of texts are split by their names (`TableLibrary.standard_splitsTexts`). If it holds a frame, the
frame is read (`ObjectTable.readFrame_eq_ok`).
-/

namespace Vicinity

open Text

/-! ## Paths -/

namespace FileSystem

variable {fs : FileSystem} {path : String} {bytes : List UInt8}

/-- A plain path stands for one file. -/
theorem expand_of_isPlain (hpath : Path.IsPlain path) (hread : fs.read path = .ok bytes) :
    fs.expand path = .ok [{ node := .file bytes }] := by
  have hne {c : Char} (hc : c ∈ ['*', '?', '[', ']', '\x7b', '\x7d', '~', ':', '\x00']) :
      c ∉ path.toList := fun hmem => hpath c hmem hc
  have hnul : path.contains '\x00' = false := contains_eq_false (hne (by decide))
  have hplain : isPlain path = true := by
    rw [isPlain, Bool.not_eq_true', List.any_eq_false]
    intro c hc hspecial
    have hcases : (c = '*' ∨ c = '?') ∨ c = '[' := by simpa [Glob.isSpecial] using hspecial
    obtain (rfl | rfl) | rfl := hcases
    all_goals exact hne (by decide) hc
  rw [read, open?] at hread
  rw [expand, hnul, hplain]
  cases hlocate : fs.locate path with
  | error fault =>
    rw [hlocate] at hread
    cases hread
  | ok names =>
    rw [hlocate] at hread
    cases hfind : fs.find? names with
    | none =>
      simp only [hfind] at hread
      cases hread
    | some node =>
      cases node with
      | file bytes' =>
        simp only [hfind] at hread
        cases hread
        simp [hfind]
      | directory =>
        simp only [hfind] at hread
        cases hread

end FileSystem

/-! ## Texts -/

namespace Zlib

theorem isCompressed_iff {bytes : List UInt8} :
    isCompressed bytes ↔ ∃ level ∈ levels, ∃ rest, bytes = 0x78 :: level :: rest := by
  rw [isCompressed.eq_def]
  split
  · simp
  · rename_i hne
    refine iff_of_false (by simp) ?_
    rintro ⟨level, -, rest, rfl⟩
    exact hne level rest rfl

/-- Bytes that do not begin as a compressed stream does begin none with a comma after them. -/
theorem not_isCompressed_append {bytes : List UInt8} (h : isCompressed bytes = false)
    (rest : List UInt8) : isCompressed (bytes ++ Csv.comma :: rest) = false := by
  rw [Bool.eq_false_iff, Ne, isCompressed_iff]
  rintro ⟨level, hlevel, rest', hbytes⟩
  match bytes with
  | [] => cases hbytes
  | [b] =>
    obtain rfl : Csv.comma = level := (List.cons.inj (List.cons.inj hbytes).2).1
    exact absurd hlevel (by decide)
  | b :: level' :: bytes =>
    obtain ⟨rfl, htail⟩ := List.cons.inj hbytes
    obtain ⟨rfl, -⟩ := List.cons.inj htail
    rw [isCompressed_iff.mpr ⟨level', hlevel, bytes, rfl⟩] at h
    cases h

end Zlib

namespace Csv

/-- A text with a header of plain names does not begin as a compressed stream does. -/
theorem IsText.not_isCompressed {names : List String} {rows : List (List String)} {text : String}
    (hnames : IsHeader names) (h : IsText (names :: rows) text) :
    text.toList.head? ≠ some '\ufeff' ∧ Zlib.isCompressed (Utf8.encode text.toList) = false := by
  obtain ⟨s, s', cells, rfl⟩ : ∃ s s' cells, names = s :: s' :: cells := by
    match names, hnames.width with
    | s :: s' :: cells, _ => exact ⟨s, s', cells, rfl⟩
  obtain ⟨rest, hrest⟩ := h.exists_toList_eq
  constructor
  · have hhead := hnames.head?_ne s rfl
    rw [hrest]
    cases hcs : s.toList with
    | nil => simp
    | cons c cs =>
      rw [hcs] at hhead
      exact hhead
  · have hname : Zlib.isCompressed (Utf8.encode s.toList) = false := by
      rw [Bool.eq_false_iff, Ne, Zlib.isCompressed_iff]
      rintro ⟨level, hlevel, rest', hbytes⟩
      exact hnames.not_isCompressed s rfl level hlevel ⟨rest', hbytes.symm⟩
    rw [hrest, Utf8.encode_append]
    exact Zlib.not_isCompressed_append hname (Utf8.encode rest)

/-- The name of a column stands for the columns of that name. -/
theorem exists_splitColumns_one (separator : Char) {f : Frame} {c : Column} (hc : c ∈ f.columns) :
    ∃ g, splitColumns separator (.one c.name) f = .ok g ∧ g.cells = f.cells.map fun d =>
      if d.1 = c.name then (d.1, d.2.map (splitCell separator)) else d := by
  obtain ⟨values, hvalues⟩ := Frame.exists_column_eq_ok hc
  rw [splitColumns, hvalues]
  refine ⟨_, rfl, ?_⟩
  rw [Frame.cells, Frame.cells, List.map_map, List.map_map]
  refine List.map_congr_left fun d _ => ?_
  by_cases h : d.name = c.name <;> simp [Selection.contains, h]

end Csv

namespace ObjectTable

theorem contentOf_encode {cs : List Char} (h : Zlib.isCompressed (Utf8.encode cs) = false) :
    contentOf (Utf8.encode cs) = .ok (Utf8.encode cs) := by
  simp [contentOf, Utf8.not_isCompressed_encode, h]

variable {names : List String} {rows : List (List String)} {text : String}

/-- A text without quotes is read as its rows. -/
theorem frameOfTexts_of_isText (hnames : Csv.IsHeader names)
    (hrows : ∀ row ∈ rows, Csv.IsRow names.length row) (h : Csv.IsText (names :: rows) text) :
    frameOfTexts [Utf8.encode text.toList] =
      .ok (Csv.frameOfRows names (rows.map fun row => row.map Csv.cellOf)) := by
  obtain ⟨hmark, hplain⟩ := h.not_isCompressed hnames
  have hall : ∀ row ∈ names :: rows, Csv.IsRow names.length row :=
    List.forall_mem_cons.mpr ⟨⟨rfl, hnames.plain⟩, hrows⟩
  obtain ⟨s, hs, rfl, hcells⟩ :=
    Csv.Sheet.exists_of_isText hnames.width hnames.nodup hall hmark h
  have hsheet : [Utf8.encode text.toList].mapM sheetOf = .ok [s] := by
    rw [List.mapM_cons, sheetOf, contentOf_encode hplain]
    simp only [bind, Except.bind, hs]
    rfl
  have hframe : Csv.frameOfSheets [s] =
      .ok (Csv.frameOfRows s.names (rows.map fun row => row.map Csv.cellOf)) := by
    rw [Csv.frameOfSheets, List.mapM_cons, hcells]
    simp
  rw [frameOfTexts, hsheet]
  simp only [bind, Except.bind, hframe, Except.mapError]

/-! ## Frames -/

/-- The file of a table that a text can hold is read as the table. -/
theorem readFrame_eq_ok {fs : FileSystem} {path : String} {f : Frame} (hpath : Path.IsPlain path)
    (hread : fs.read path = .ok f.toBytes) (hf : f.IsReadable) : readFrame fs path = .ok f := by
  have hframe : frameIn { node := .file f.toBytes } = .ok ([], f) := by
    rw [frameIn, bytesOf, Frame.ofBytes?_toBytes hf]
  rw [readFrame, FileSystem.expand_of_isPlain hpath hread]
  change frameOfFrames [_] = _
  rw [frameOfFrames, List.mapM_cons, hframe]
  rfl

end ObjectTable

namespace TableLibrary

theorem standard_readsTexts : standard.ReadsTexts := by
  intro fs path text names rows hpath hread hnames hrows htext
  change ObjectTable.readTexts fs path = _
  rw [ObjectTable.readTexts, FileSystem.expand_of_isPlain hpath hread]
  exact ObjectTable.frameOfTexts_of_isText hnames hrows htext

theorem standard_splitsTexts : standard.SplitsTexts := by
  intro separator name f hname _ hcolumn
  obtain ⟨c, hc, rfl, -⟩ := hcolumn
  have hselection : Selection.ofName? c.name = some (.one c.name) := by
    have hpattern : ¬ Selection.isPattern c.name := by simpa [Selection.isPattern] using hname.2
    rw [Selection.ofName?, if_neg hname.1, if_neg hpattern]
  obtain ⟨g, hg, hcells⟩ := Csv.exists_splitColumns_one separator hc
  have hsplit : ObjectTable.splitTexts separator c.name f = .ok g := by
    simp only [ObjectTable.splitTexts, hselection, hg, Except.mapError]
  exact ⟨g, hsplit, hcells⟩

end TableLibrary

end Vicinity
