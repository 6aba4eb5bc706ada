import Vicinity.NeighborReader
import Vicinity.Proofs.Gzip.Format
import Vicinity.Proofs.Gzip.Truncated
import Vicinity.Proofs.Load.Store
import Vicinity.Proofs.Stream

/-!
# Loading a file

A store comes of a file only if it is opened and read to its end, and it is then that of the
file's lines (`NeighborReader.exists_of_result_loadFile`). The lines before a failure of reading
are loaded as well, but nothing comes of them.

A file gives the same store and leaves the reader in the same state whether it is compressed or
not, and however it is compressed (`NeighborReader.loadFile_compressed`).

A compressed file of one member that gives a store gives none if anything is cut off its end :
the load fails because the file is truncated (`NeighborReader.result_loadFile_truncated`).
-/

namespace Vicinity

open Text

/-! ## Lines -/

namespace Load

/-- If all lines are loaded then so are the first of them. -/
theorem exists_lines_of_isPrefix {index : LabelIndex} {options : LoadOptions} {l l' : Load}
    {front whole : List String} (h : lines index options l whole = .ok l')
    (hpre : front <+: whole) : ∃ l'', lines index options l front = .ok l'' := by
  obtain ⟨hkeys, -⟩ := (lines_eq_ok_iff options).mp h
  exact ⟨_, (lines_eq_ok_iff options).mpr
    ⟨fun line hline => hkeys line (hpre.subset hline), rfl⟩⟩

end Load

namespace NeighborReader

/-! ## Streams -/

theorem exists_lines_of_loadLines {r : NeighborReader} {lines : List String}
    {store : NeighborStore} (h : (r.loadLines lines).2.result = .ok store) :
    ∃ l, Load.lines r.index r.settings.options {} lines = .ok l :=
  ⟨_, (Load.lines_eq_ok_iff r.settings.options).mpr
    ⟨exists_result_loadLines_iff.mp ⟨store, h⟩, rfl⟩⟩

/-- A stream that is read to its end is loaded as its lines are. -/
theorem loadStream_of_lines {r : NeighborReader} {path : String} {s : TextStream}
    (h : s.lines.2 = none) :
    (r.loadStream path s).1 = (r.loadLines s.lines.1).1 ∧
      (r.loadStream path s).2.result = (r.loadLines s.lines.1).2.result := by
  rcases hs : s.lines with ⟨lines, f⟩
  rw [hs] at h
  cases h
  rcases hload : r.loadLines lines with ⟨r', events, f | store⟩
  · simp [loadStream, hs, hload]
  · simp [loadStream, hs, hload]

/-- The lines that are read before a stream fails are loaded, and nothing comes of them. -/
theorem loadStream_of_failure {r : NeighborReader} {path : String} {s : TextStream}
    {f : StreamFailure} (hf : s.lines.2 = some f)
    (h : ∀ line ∈ s.lines.1, ∀ x ∈ r.index.subject? line, x.isHashable) :
    (r.loadStream path s).1 = { r with last := r.loaded s.lines.1 } ∧
      (r.loadStream path s).2.result = .error (.ofStreamFailure f) := by
  have hload : Load.lines r.index r.settings.options {} s.lines.1 = .ok (r.loaded s.lines.1) :=
    (Load.lines_eq_ok_iff r.settings.options).mpr ⟨h, rfl⟩
  rw [loadStream]
  rcases hs : s.lines with ⟨lines, f'⟩
  rw [hs] at hf hload
  cases hf
  simp only [hload, and_self]

theorem result_loadStream_of_failure {r : NeighborReader} {path : String} {s : TextStream}
    {f : StreamFailure} {l : Load} (hf : s.lines.2 = some f)
    (hl : Load.lines r.index r.settings.options {} s.lines.1 = .ok l) :
    (r.loadStream path s).2.result = .error (.ofStreamFailure f) :=
  (loadStream_of_failure hf ((Load.lines_eq_ok_iff r.settings.options).mp hl).1).2

theorem result_loadStream_eq_ok_iff {r : NeighborReader} {path : String} {s : TextStream}
    {store : NeighborStore} :
    (r.loadStream path s).2.result = .ok store ↔
      s.lines.2 = none ∧ (r.loadLines s.lines.1).2.result = .ok store := by
  rcases hf : s.lines.2 with _ | f
  · rw [(loadStream_of_lines hf).2]
    simp
  · refine iff_of_false ?_ (by simp)
    rcases hs : s.lines with ⟨lines, f'⟩
    rw [hs] at hf
    cases hf
    cases hl : Load.lines r.index r.settings.options {} lines with
    | error l => simp [loadStream, hs, hl]
    | ok l => simp [loadStream, hs, hl]

/-! ## Files -/

section

variable [Platform] {r : NeighborReader} {fs : FileSystem} {path : String} {bytes : List UInt8}

/-- A file that is opened is loaded as its stream is. -/
theorem loadFile_of_openFile {s : TextStream}
    (h : TextStream.openFile fs path r.settings.encoding = .ok s) :
    (r.loadFile fs path).1 = (r.loadStream path s).1 ∧
      (r.loadFile fs path).2.result = (r.loadStream path s).2.result := by
  simp only [loadFile, h, and_self]

theorem loadFile_of_read {e : TextEncoding} (hpath : path.contains '\x00' = false)
    (hread : fs.read path = .ok bytes)
    (hsetting : Encoding.ofSetting r.settings.encoding = .ok e) :
    (r.loadFile fs path).1 = (r.loadStream path ⟨e, Gzip.deliver bytes⟩).1 ∧
      (r.loadFile fs path).2.result = (r.loadStream path ⟨e, Gzip.deliver bytes⟩).2.result :=
  loadFile_of_openFile (TextStream.openFile_eq_ok_iff.mpr ⟨hpath, bytes, e, hread, hsetting, rfl⟩)

/-- A store comes of a file that is opened and read to its end. -/
theorem exists_of_result_loadFile {store : NeighborStore} (hread : fs.read path = .ok bytes)
    (hstore : (r.loadFile fs path).2.result = .ok store) :
    path.contains '\x00' = false ∧ ∃ e, Encoding.ofSetting r.settings.encoding = .ok e ∧
      (TextStream.lines ⟨e, Gzip.deliver bytes⟩).2 = none ∧
      (r.loadLines (TextStream.lines ⟨e, Gzip.deliver bytes⟩).1).2.result = .ok store := by
  cases hopen : TextStream.openFile fs path r.settings.encoding with
  | error f =>
    simp only [loadFile, hopen] at hstore
    cases hstore
  | ok s =>
    obtain ⟨hpath, bytes', e, hread', hsetting, rfl⟩ := TextStream.openFile_eq_ok_iff.mp hopen
    obtain rfl : bytes = bytes' := Except.ok.inj (hread.symm.trans hread')
    rw [(loadFile_of_read hpath hread hsetting).2] at hstore
    exact ⟨hpath, e, hsetting, result_loadStream_eq_ok_iff.mp hstore⟩

/-- A file whose content is a text is loaded as the lines of this text are. -/
theorem result_loadFile_of_writes {e : Encoding} {cs : List Char}
    (hpath : path.contains '\x00' = false) (hread : fs.read path = .ok bytes)
    (hsetting : Encoding.ofSetting r.settings.encoding = .ok (.own e))
    (hfailure : (Gzip.deliver bytes).failure = none)
    (hsigned : e = .utf8Signed → 3 ≤ (Gzip.deliver bytes).bytes.length)
    (hwrites : e.Writes cs (Gzip.deliver bytes).bytes) :
    (r.loadFile fs path).2.result =
      (r.loadLines ((linesOfWhole cs).map String.ofList)).2.result := by
  have hlines : TextStream.lines ⟨e, Gzip.deliver bytes⟩ =
      ((linesOfWhole cs).map String.ofList, none) :=
    TextStream.lines_of_writes hfailure hsigned hwrites
  rw [(loadFile_of_read hpath hread hsetting).2, (loadStream_of_lines (by rw [hlines])).2, hlines]

end

/-! ## Files that are compressed -/

/-- What is delivered without a failure can be delivered in other pieces, from another file. -/
theorem loadFile_of_bytes_eq [Platform] {r : NeighborReader} {fs fs' : FileSystem}
    {path path' : String} {bytes bytes' : List UInt8} {store : NeighborStore}
    (hjoins : ∀ e, Encoding.ofSetting r.settings.encoding = .ok e → e.Joins)
    (hread : fs.read path = .ok bytes)
    (hstore : (r.loadFile fs path).2.result = .ok store)
    (hpath' : path'.contains '\x00' = false) (hread' : fs'.read path' = .ok bytes')
    (hfailure : (Gzip.deliver bytes').failure = none)
    (hbytes : (Gzip.deliver bytes').bytes = (Gzip.deliver bytes).bytes) :
    (r.loadFile fs' path').2.result = .ok store ∧
      (r.loadFile fs' path').1 = (r.loadFile fs path).1 := by
  obtain ⟨hpath, e, hsetting, hend, hload⟩ := exists_of_result_loadFile hread hstore
  obtain ⟨hstate, -⟩ := loadFile_of_read hpath hread hsetting
  obtain ⟨hstate', hresult'⟩ := loadFile_of_read hpath' hread' hsetting
  let s : TextStream := ⟨e, Gzip.deliver bytes⟩
  let s' : TextStream := ⟨e, Gzip.deliver bytes'⟩
  have hjoins : s.encoding.Joins := hjoins e hsetting
  have hencoding : s'.encoding = s.encoding := rfl
  have hlines : s'.lines = s.lines :=
    TextStream.lines_eq_of_bytes_eq hjoins hencoding hfailure hbytes hend
  have hend' : s'.lines.2 = none := by rw [hlines, hend]
  constructor
  · rw [hresult', (loadStream_of_lines hend').2, hlines, hload]
  · rw [hstate', hstate, (loadStream_of_lines hend').1, (loadStream_of_lines hend).1, hlines]

/-- A file that is compressed gives a store if and only if its content does as a file that is
not. The store is then the same, and so is the state of the reader : the number of lines, what is
counted, and the warnings. Of an encoding that is not the library's own it is assumed that the
pieces of a file do not matter to it. -/
theorem loadFile_compressed [Platform] {r : NeighborReader} {fs fs' : FileSystem}
    {path path' : String} {contents : List (List UInt8)} {packed : List UInt8}
    (hjoins : ∀ e, Encoding.ofSetting r.settings.encoding = .ok e → e.Joins)
    (hpath : path.contains '\x00' = false)
    (hread : fs.read path = .ok contents.flatten)
    (hplain : Gzip.isCompressed contents.flatten = false)
    (hpath' : path'.contains '\x00' = false) (hread' : fs'.read path' = .ok packed)
    (hne : contents ≠ []) (hpacked : Gzip.IsFile contents packed) (store : NeighborStore) :
    ((r.loadFile fs' path').2.result = .ok store ↔ (r.loadFile fs path).2.result = .ok store) ∧
      ((r.loadFile fs path).2.result = .ok store →
        (r.loadFile fs' path').1 = (r.loadFile fs path).1) := by
  obtain ⟨hfailure', hbytes'⟩ := Gzip.deliver_of_isFile hpacked hne
  have hdeliver := Gzip.deliver_of_not_isCompressed hplain
  have hfailure : (Gzip.deliver contents.flatten).failure = none := by rw [hdeliver]; rfl
  have hbytes : (Gzip.deliver contents.flatten).bytes = contents.flatten := by
    rw [hdeliver, Delivery.bytes_ofBytes]
  have hsame := hbytes'.trans hbytes.symm
  refine ⟨⟨fun h => ?_, fun h => ?_⟩, fun h => ?_⟩
  · exact (loadFile_of_bytes_eq hjoins hread' h hpath hread hfailure hsame.symm).1
  · exact (loadFile_of_bytes_eq hjoins hread h hpath' hread' hfailure' hsame).1
  · exact (loadFile_of_bytes_eq hjoins hread h hpath' hread' hfailure' hsame).2

/-- A line that ends with a carriage return, in one member : a head with a name, and a block in
the fixed codes that copies what it has just begun to make. -/
def repeatMember : List UInt8 :=
  [0x1f, 0x8b, 8, 8, 0, 0, 0, 0, 0, 3, 0x6e, 0, 0xab, 0x50, 0, 0x43, 0x5e, 0, 0xa8, 0x8d, 0x0b,
    0xfc, 8, 0, 0, 0]

/-- The line. -/
def repeatContent : List UInt8 := [0x78, 0x20, 0x78, 0x20, 0x78, 0x20, 0x78, 0x0d]

theorem isData_repeat :
    Deflate.IsData repeatContent [0xab, 0x50, 0, 0x43, 0x5e, 0] := by
  let m : Deflate.Match := ⟨2, 0, 1, 0, by decide, by decide⟩
  have hcopy : Deflate.IsCopy m.distance [0x78, 0x20] [0x78, 0x20, 0x78, 0x20, 0x78] :=
    ⟨by decide, by decide⟩
  have htokens : Deflate.FixedTokens [] _ repeatContent :=
    .literal 0x78 <| .literal 0x20 <| .copy m rfl hcopy <| .literal 0x0d <| .endOfBlock _
  exact ⟨_, [false, false], .last (.fixed htokens), by decide, by decide +kernel⟩

theorem isMember_repeat : Gzip.IsMember repeatContent repeatMember := by
  let head : Gzip.Head := ⟨false, [0, 0, 0, 0], 0, 3, none, some [0x6e], none, none, rfl,
    by simp, by simp, by simp, by simp⟩
  exact ⟨head, _, isData_repeat, by decide +kernel⟩

/-- The line feed after it, in a member of its own. -/
def feedMember : List UInt8 :=
  [0x1f, 0x8b, 8, 0, 0, 0, 0, 0, 0, 0xff, 1, 1, 0, 0xfe, 0xff, 0x0a, 0x93, 6, 0xd7, 0x32, 1, 0,
    0, 0]

theorem isMember_feed : Gzip.IsMember [0x0a] feedMember := by
  let head : Gzip.Head := ⟨false, [0, 0, 0, 0], 0, 0xff, none, none, none, none, rfl,
    by simp, by simp, by simp, by simp⟩
  have hdata : Deflate.IsData [0x0a] [1, 1, 0, 0xfe, 0xff, 0x0a] :=
    ⟨_, [], .last (.stored (List.replicate 5 false) [0x0a] rfl (by decide) (by decide)),
      by decide, by decide +kernel⟩
  exact ⟨head, _, hdata, by decide +kernel⟩

/-- A reader of one label, for files in UTF-8. -/
def repeatReader : NeighborReader where
  index := ⟨.ofList [(.text "x", .int 1)], 1, []⟩
  settings := { encoding := .null }

/-- A working directory with one file. -/
def filesWith (bytes : List UInt8) : FileSystem :=
  (FileSystem.ofWorkingDirectory []).put ["x"] (.file bytes)

theorem ofSetting_repeat :
    Encoding.ofSetting repeatReader.settings.encoding = .ok (.own .utf8) := rfl

theorem joins_repeat (e : TextEncoding)
    (h : Encoding.ofSetting repeatReader.settings.encoding = .ok e) : e.Joins := by
  rw [ofSetting_repeat] at h
  cases h
  exact trivial

theorem read_filesWith (bytes : List UInt8) : (filesWith bytes).read "x" = .ok bytes := rfl

theorem contains_zero_x : "x".contains '\x00' = false := contains_eq_false (by decide)

theorem contains_zero_y : "y".contains '\x00' = false := contains_eq_false (by decide)

/-- There is no other file. -/
theorem read_filesWith_other (bytes : List UInt8) :
    (filesWith bytes).read "y" = .error ⟨.notFound, "y"⟩ := rfl

/-- What the reader makes of the line, with any end. -/
def repeatStore : NeighborStore := ⟨.ofList [(.int 1, [.int 1, .int 1, .int 1])]⟩

theorem result_loadLines_repeat :
    (repeatReader.loadLines ["x x x x\n"]).2.result = .ok repeatStore := by
  have happends : repeatReader.index.appends repeatReader.settings.options.includeSubject
      ["x x x x\n"] = [(.int 1, [.int 1, .int 1, .int 1])] := by decide +kernel
  rw [result_loadLines _ _ (by decide +kernel), happends]
  rfl

theorem loadFile_compressed_repeat :
    ∃ (contents : List (List UInt8)) (packed : List UInt8), contents ≠ [] ∧
      Gzip.IsFile contents packed ∧ Gzip.isCompressed contents.flatten = false ∧
      (repeatReader.loadFile (filesWith contents.flatten) "x").2.result = .ok repeatStore ∧
      (repeatReader.loadFile (filesWith packed) "x").2.result = .ok repeatStore ∧
      (repeatReader.loadFile (filesWith packed) "x").1 =
        (repeatReader.loadFile (filesWith contents.flatten) "x").1 := by
  have hfile : Gzip.IsFile [repeatContent, [0x0a]] _ := .cons 1 isMember_repeat <|
    .cons 0 isMember_feed .nil
  have hplain : Gzip.isCompressed [repeatContent, [0x0a]].flatten = false := rfl
  have hdeliver := Gzip.deliver_of_not_isCompressed hplain
  have hstore : (repeatReader.loadFile (filesWith [repeatContent, [0x0a]].flatten) "x").2.result =
      .ok repeatStore := by
    have hwrites : Encoding.Writes "x x x x\r\n".toList
        (Gzip.deliver [repeatContent, [0x0a]].flatten).bytes .utf8 := by
      rw [hdeliver, Delivery.bytes_ofBytes]
      show _ = Utf8.encode _
      decide +kernel
    have hlines : (linesOfWhole "x x x x\r\n".toList).map String.ofList = ["x x x x\n"] := by
      decide +kernel
    rw [result_loadFile_of_writes contains_zero_x (read_filesWith _) ofSetting_repeat
      (by rw [hdeliver]; rfl) (by simp) hwrites, hlines, result_loadLines_repeat]
  obtain ⟨hresult, hstate⟩ := loadFile_compressed joins_repeat contains_zero_x (read_filesWith _)
    hplain contains_zero_x (read_filesWith _) (List.cons_ne_nil _ _) hfile repeatStore
  exact ⟨_, _, List.cons_ne_nil _ _, hfile, hplain, hstore, hresult.mpr hstore, hstate hstore⟩

/-! ## Files that are cut -/

/-- A compressed file of one member that gives a store fails to load, as truncated, if anything
is cut off its end and the two bytes that tell a compressed file are left. -/
theorem result_loadFile_truncated [Platform] {r : NeighborReader} {fs fs' : FileSystem}
    {path path' : String} {whole front : List UInt8} {pieces : List (List UInt8)}
    {store : NeighborStore}
    (hjoins : ∀ e, Encoding.ofSetting r.settings.encoding = .ok e → e.Joins)
    (hread : fs.read path = .ok whole) (hmember : Gzip.member whole = (pieces, .ok []))
    (hstore : (r.loadFile fs path).2.result = .ok store) (hpre : front <+: whole)
    (hne : front ≠ whole) (hlen : 2 ≤ front.length) (hpath' : path'.contains '\x00' = false)
    (hread' : fs'.read path' = .ok front) :
    (r.loadFile fs' path').2.result = .error (.unreadable (.unpacking .truncated)) := by
  obtain ⟨-, e, hsetting, hend, hload⟩ := exists_of_result_loadFile hread hstore
  -- the whole text, whose lines can be loaded
  obtain ⟨cs, hcs, hlines⟩ := TextStream.exists_yields_of_lines (hjoins e hsetting) hend
  obtain ⟨l, hl⟩ := exists_lines_of_loadLines hload
  rw [hlines] at hl
  -- what is left of it
  obtain ⟨hfailure, later, hlater⟩ := Gzip.deliver_of_isPrefix hmember hpre hne hlen
  have hbytes : (Gzip.deliver front).bytes ++ later = (Gzip.deliver whole).bytes := by
    rw [hlater, Gzip.deliver_of_member hmember]
    rfl
  rw [← hbytes] at hcs
  have hbroken : (TextStream.lines ⟨e, Gzip.deliver front⟩).2 = _ ∧ _ :=
    TextStream.lines_of_failure (hjoins e hsetting) hfailure hcs
  obtain ⟨l', hl'⟩ := Load.exists_lines_of_isPrefix hl hbroken.2
  rw [(loadFile_of_read hpath' hread' hsetting).2, result_loadStream_of_failure hbroken.1 hl']
  rfl

theorem result_loadFile_truncated_repeat :
    (repeatReader.loadFile (filesWith repeatMember) "x").2.result = .ok repeatStore ∧
      (repeatReader.loadFile (filesWith (repeatMember.take 15)) "x").2.result =
        .error (.unreadable (.unpacking .truncated)) := by
  have hmember : Gzip.member repeatMember = (Delivery.fullPieces repeatContent, .ok []) := by
    have := Gzip.member_of_isMember isMember_repeat []
    rwa [List.append_nil] at this
  have hdeliver := Gzip.deliver_of_member hmember
  have hstore : (repeatReader.loadFile (filesWith repeatMember) "x").2.result =
      .ok repeatStore := by
    have hwrites : Encoding.Writes "x x x x\r".toList (Gzip.deliver repeatMember).bytes .utf8 := by
      rw [hdeliver, Delivery.bytes, Delivery.flatten_fullPieces]
      show _ = Utf8.encode _
      decide +kernel
    have hlines : (linesOfWhole "x x x x\r".toList).map String.ofList = ["x x x x\n"] := by
      decide +kernel
    rw [result_loadFile_of_writes contains_zero_x (read_filesWith _) ofSetting_repeat
      (by rw [hdeliver]) (by simp) hwrites, hlines, result_loadLines_repeat]
  exact ⟨hstore, result_loadFile_truncated joins_repeat (read_filesWith _) hmember hstore
    (List.take_prefix 15 _) (by decide) (by decide) contains_zero_x (read_filesWith _)⟩

end NeighborReader

end Vicinity
