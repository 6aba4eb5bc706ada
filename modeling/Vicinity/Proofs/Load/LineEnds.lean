import Vicinity.Proofs.Load.Outcome
import Vicinity.Proofs.Text.EndedLine

/-!
# Line ends do not matter

A line is loaded by its tokens alone (`LineReading.ofLine_congr`), so lines with the same tokens
are loaded alike (`NeighborReader.loadLines_congr`). What stands behind the body of a line, spaces
first and then line ends, makes no difference to its tokens. Neither does it matter with which line
ends a file is written, nor whether its last line has one (`NeighborReader.loadFile_lineEnds`).
-/

namespace Vicinity

open Text

/-! ## Lines with the same tokens -/

/-- A line says what its tokens say. -/
theorem LineReading.ofLine_congr {line line' : String}
    (h : LabelIndex.tokensOfLine line = LabelIndex.tokensOfLine line') (index : LabelIndex)
    (includeSubject : Bool) :
    ofLine index includeSubject line = ofLine index includeSubject line' := by
  rw [LabelIndex.tokensOfLine, LabelIndex.tokensOfLine] at h
  rw [ofLine, ofLine, h]

theorem Load.lines_congr (index : LabelIndex) (options : LoadOptions) {lines lines' : List String}
    (h : lines.map LabelIndex.tokensOfLine = lines'.map LabelIndex.tokensOfLine) (l : Load) :
    Load.lines index options l lines = Load.lines index options l lines' := by
  induction lines generalizing lines' l with
  | nil =>
    obtain rfl := List.map_eq_nil_iff.mp h.symm
    rfl
  | cons line rest ih =>
    obtain ⟨line', rest', rfl, hline, hrest⟩ := List.map_eq_cons_iff.mp h.symm
    have hstep : Load.line index options l line = Load.line index options l line' := by
      rw [Load.line, Load.line, LineReading.ofLine_congr hline.symm]
    rw [Load.lines, Load.lines, List.foldlM_cons, List.foldlM_cons, hstep]
    cases Load.line index options l line' with
    | error l' => rfl
    | ok l' => exact ih hrest.symm l'

namespace NeighborReader

/-- Lines with the same tokens give the same outcome : what comes of the load, what is told of it,
and the state of the reader. -/
theorem loadLines_congr (r : NeighborReader) {lines lines' : List String}
    (h : lines.map LabelIndex.tokensOfLine = lines'.map LabelIndex.tokensOfLine) :
    r.loadLines lines = r.loadLines lines' := by
  rw [loadLines, loadLines, Load.lines_congr r.index r.settings.options h]

/-! ## Bodies and what ends them -/

theorem loadLines_of_pads (r : NeighborReader) {bodies lines : List String}
    (hbodies : ∀ body ∈ bodies, IsBody body.toList) (h : List.Forall₂ Pads bodies lines) :
    r.loadLines lines = r.loadLines bodies := by
  refine r.loadLines_congr ?_
  induction h with
  | nil => rfl
  | cons hpads _ ih =>
    obtain ⟨hbody, hbodies⟩ := List.forall_mem_cons.mp hbodies
    have htokens : LabelIndex.tokensOfLine _ = LabelIndex.tokensOfLine _ :=
      tokens_of_pads hbody hpads
    rw [List.map_cons, List.map_cons, htokens, ih hbodies]

/-- The bodies of lines, and of a last one that is not ended. -/
def bodiesOf (lines : List EndedLine) (last : List Char) : List String :=
  (lines.map EndedLine.body ++ lastLine last).map String.ofList

/-- The lines of a text are the bodies that it is made of, with a line feed each. -/
theorem loadLines_linesOfWhole (r : NeighborReader) {lines : List EndedLine} {last : List Char}
    (hbodies : ∀ l ∈ lines, IsBody l.body) (hlast : IsBody last)
    (hapart : lines.IsChain fun l l' => ¬ l.Joins l') :
    r.loadLines ((linesOfWhole (textOf lines last)).map String.ofList) =
      r.loadLines (bodiesOf lines last) := by
  have hpads : ∀ (body : List Char) (ends : List Char), (∀ c ∈ ends, c = '\r' ∨ c = '\n') →
      Pads (String.ofList body) (String.ofList (body ++ ends)) := fun body ends hends =>
    ⟨0, ends, hends, by simp [String.ofList_append]⟩
  have hbody : ∀ body ∈ bodiesOf lines last, IsBody body.toList := by
    intro body hbody
    obtain ⟨cs, hcs, rfl⟩ := List.mem_map.mp hbody
    rw [String.toList_ofList]
    obtain hcs | hcs := List.mem_append.mp hcs
    · obtain ⟨l, hl, rfl⟩ := List.mem_map.mp hcs
      exact hbodies l hl
    · rw [lastLine] at hcs
      split at hcs
      · cases hcs
      · rwa [List.mem_singleton.mp hcs]
  refine r.loadLines_of_pads hbody ?_
  rw [linesOfWhole_textOf hbodies hlast hapart, bodiesOf, List.map_append, List.map_append,
    List.map_map, List.map_map]
  refine List.rel_append ?ended ?unended
  case ended =>
    refine List.forall₂_map_left_iff.mpr (List.forall₂_map_right_iff.mpr ?_)
    exact List.forall₂_same.mpr fun l _ => hpads l.body ['\n'] (by simp)
  case unended =>
    refine List.forall₂_map_left_iff.mpr (List.forall₂_map_right_iff.mpr ?_)
    refine List.forall₂_same.mpr fun cs _ => ?_
    have := hpads cs [] (by simp)
    rwa [List.append_nil] at this

/-- A file in UTF-8 that is made of lines is loaded as their bodies are, whichever line ends they
have; its last line need not be ended if it is not empty. Only a carriage return must not be
followed by an empty line that ends with a line feed. Lines that are not read from a file may end
with any spaces, and any carriage returns and line feeds after them. -/
theorem loadFile_lineEnds [Platform] (r : NeighborReader) :
    (∀ {fs : FileSystem} {path : String} {lines : List EndedLine} {last : List Char},
      path.contains '\x00' = false → fs.read path = .ok (Utf8.encode (textOf lines last)) →
      Encoding.ofSetting r.settings.encoding = .ok (.own .utf8) → (∀ l ∈ lines, IsBody l.body) →
      IsBody last → (lines.IsChain fun l l' => ¬ l.Joins l') →
        (r.loadFile fs path).1 = (r.loadLines (bodiesOf lines last)).1 ∧
          (r.loadFile fs path).2.result = (r.loadLines (bodiesOf lines last)).2.result) ∧
    ∀ {bodies lines : List String}, (∀ body ∈ bodies, IsBody body.toList) →
      List.Forall₂ Pads bodies lines → r.loadLines lines = r.loadLines bodies := by
  refine ⟨?_, r.loadLines_of_pads⟩
  intro fs path lines last hpath hread hsetting hbodies hlast hapart
  have hdeliver := Gzip.deliver_of_not_isCompressed
    (Utf8.not_isCompressed_encode (textOf lines last))
  have hreads : r.ReadsFile fs path (textOf lines last) := by
    refine ⟨hpath, _, .own .utf8, hread, hsetting, ?_⟩
    rw [hdeliver]
    exact ⟨rfl, .inl (Delivery.bytes_ofBytes (ε := GzipError) _)⟩
  rw [← r.loadLines_linesOfWhole hbodies hlast hapart]
  exact loadFile_of_readsFile hreads

/-- Lines with all kinds of ends, three empty ones among them, and with characters that look like
ends. -/
def endedLines : List EndedLine :=
  [⟨"x x".toList, .returnFeed⟩, ⟨[], .carriageReturn⟩, ⟨[], .carriageReturn⟩,
    ⟨"x \x0b\x85 ".toList, .feed⟩, ⟨[], .feed⟩, ⟨"\u2028".toList, .carriageReturn⟩]

theorem loadFile_lineEnds_mixed :
    (repeatReader.loadFile (filesWith (Utf8.encode (textOf endedLines ['x']))) "x").1 =
        (repeatReader.loadLines ["x x", "", "", "x \x0b\x85 ", "", "\u2028", "x"]).1 ∧
      (repeatReader.loadFile (filesWith (Utf8.encode (textOf endedLines ['x']))) "x").2.result =
        (repeatReader.loadLines ["x x", "", "", "x \x0b\x85 ", "", "\u2028", "x"]).2.result ∧
      repeatReader.loadLines ["x x  \r\n\r", " \n"] = repeatReader.loadLines ["x x", ""] := by
  obtain ⟨hfile, hlines⟩ := loadFile_lineEnds repeatReader
  have hbodies : ∀ l ∈ endedLines, IsBody l.body := by simp [endedLines, IsBody]
  have hlast : IsBody ['x'] := by simp [IsBody]
  have hapart : endedLines.IsChain fun l l' => ¬ l.Joins l' := by decide
  obtain ⟨hstate, hresult⟩ := hfile contains_zero_x (read_filesWith _) ofSetting_repeat hbodies
    hlast hapart
  have hpads : List.Forall₂ Pads ["x x", ""] ["x x  \r\n\r", " \n"] :=
    .cons ⟨2, ['\r', '\n', '\r'], by simp, by decide⟩ (.cons ⟨1, ['\n'], by simp, by decide⟩ .nil)
  exact ⟨hstate, hresult, hlines (by simp [IsBody]) hpads⟩

end NeighborReader

end Vicinity
