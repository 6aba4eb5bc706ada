import Vicinity.Proofs.Load.File
import Vicinity.Proofs.Stream.Failure

/-!
# The outcome of loading a file

Loading a stream fails if the subject of a line that is read cannot be a key, and else if the
stream fails, with the failure of the stream (`NeighborReader.result_loadStream_eq_error_iff`). A
file that is not opened leaves the reader as it was; the failures that then remain are those of
unpacking and decoding, which are reported as a file that is unreadable, and the missing mark of
UTF-16, or the like from a decoder that is not the library's own, which are not
(`NeighborReader.loadFile_outcome`).
-/

namespace Vicinity

open Text

/-! ## Decoding -/

/-- Pieces of bytes are decoded to the text `cs` : in an encoding of the library their bytes are,
wherever they are cut, and any other decoder is given one after another, and then their end. -/
def TextEncoding.Decodes (pieces : List (List UInt8)) (cs : List Char) : TextEncoding → Prop
  | .own e => e.Decodes pieces.flatten cs
  | .foreign d => ∃ cs₁ d' cs₂, (Decoder.foreign d []).feedAll pieces = (cs₁, .ok d') ∧
      d'.Yields [] cs₂ ∧ cs = cs₁ ++ cs₂

theorem TextStream.decoded_eq_iff_decodes {s : TextStream} {cs : List Char} :
    s.decoded = (cs, none) ↔
      s.delivery.failure = none ∧ s.encoding.Decodes s.delivery.pieces cs := by
  rcases s with ⟨encoding | d, delivery⟩
  · rw [decoded_eq_iff (s := ⟨encoding, delivery⟩) trivial]
    exact and_congr_right fun _ => Encoding.yields_iff_decodes
  · exact decoded_eq_iff_feedAll

namespace NeighborReader

/-! ## Streams -/

section

variable {r : NeighborReader} {path : String} {s : TextStream}

/-- A subject that cannot be a key comes before any failure of the stream. -/
theorem result_loadStream_of_unhashable
    (h : ¬ ∀ line ∈ s.lines.1, ∀ x ∈ r.index.subject? line, x.isHashable) :
    (r.loadStream path s).2.result = .error .unhashableSubject := by
  rcases hs : s.lines with ⟨lines, f⟩
  rw [hs] at h
  cases hload : Load.lines r.index r.settings.options {} lines with
  | ok l => exact absurd ((Load.lines_eq_ok_iff r.settings.options).mp hload).1 h
  | error l => cases f <;> simp [loadStream, loadLines, hs, hload]

theorem result_loadStream_eq_error_iff {f : LoadFailure} :
    (r.loadStream path s).2.result = .error f ↔
      (¬ ∀ line ∈ s.lines.1, ∀ x ∈ r.index.subject? line, x.isHashable) ∧ f = .unhashableSubject ∨
      (∀ line ∈ s.lines.1, ∀ x ∈ r.index.subject? line, x.isHashable) ∧
        ∃ g, s.lines.2 = some g ∧ f = .ofStreamFailure g := by
  by_cases h : ∀ line ∈ s.lines.1, ∀ x ∈ r.index.subject? line, x.isHashable
  · rw [and_iff_right h, or_iff_right fun hn => hn.1 h]
    cases hf : s.lines.2 with
    | none => simp [loadStream_of_lines hf, loadLines_of_isHashable h]
    | some g => simp [loadStream_of_failure hf h, eq_comm]
  · rw [result_loadStream_of_unhashable h, and_iff_right h, or_iff_left fun hn => h hn.1]
    simp [eq_comm]

end

/-! ## Files -/

/-- The file at a path is opened, its encoding is known, and all it contains is unpacked and
decoded to the text `cs`. -/
def ReadsFile [Platform] (r : NeighborReader) (fs : FileSystem) (path : String)
    (cs : List Char) : Prop :=
  path.contains '\x00' = false ∧
    ∃ bytes e, fs.read path = .ok bytes ∧ Encoding.ofSetting r.settings.encoding = .ok e ∧
      (Gzip.deliver bytes).failure = none ∧ e.Decodes (Gzip.deliver bytes).pieces cs

/-- The lines of the file at a path that are read before it fails to be opened, unpacked or
decoded. -/
inductive FailsAfter [Platform] (r : NeighborReader) (fs : FileSystem) (path : String) :
    List String → ReadFailure → Prop
  | opening {e : OpenError} (hpath : path.contains '\x00' = false)
      (hread : fs.read path = .error e) : FailsAfter r fs path [] (.opening e)
  | unpacking {s : TextStream} {lines : List String} {e : GzipError}
      (hopen : TextStream.openFile fs path r.settings.encoding = .ok s)
      (hfailure : s.delivery.failure = some e)
      (hlines : s.lines = (lines, some (.reading (.unpacking e)))) :
      FailsAfter r fs path lines (.unpacking e)
  | decoding {s : TextStream} {lines : List String} {e : DecodeError}
      (hopen : TextStream.openFile fs path r.settings.encoding = .ok s)
      (hlines : s.lines = (lines, some (.reading (.decoding e)))) :
      FailsAfter r fs path lines (.decoding e)

section

variable [Platform] {r : NeighborReader} {fs : FileSystem} {path : String}

theorem readsFile_iff {cs : List Char} :
    r.ReadsFile fs path cs ↔ ∃ s, TextStream.openFile fs path r.settings.encoding = .ok s ∧
      s.decoded = (cs, none) := by
  simp only [ReadsFile, TextStream.openFile_eq_ok_iff, TextStream.decoded_eq_iff_decodes]
  constructor
  · rintro ⟨hpath, bytes, e, hread, hsetting, hfailure, hcs⟩
    exact ⟨⟨e, Gzip.deliver bytes⟩, ⟨hpath, bytes, e, hread, hsetting, rfl⟩, hfailure, hcs⟩
  · rintro ⟨s, ⟨hpath, bytes, e, hread, hsetting, rfl⟩, hfailure, hcs⟩
    exact ⟨hpath, bytes, e, hread, hsetting, hfailure, hcs⟩

/-- A file that is read to its end is loaded as its lines are. -/
theorem loadFile_of_readsFile {cs : List Char} (h : r.ReadsFile fs path cs) :
    (r.loadFile fs path).1 = (r.loadLines ((linesOfWhole cs).map String.ofList)).1 ∧
      (r.loadFile fs path).2.result =
        (r.loadLines ((linesOfWhole cs).map String.ofList)).2.result := by
  obtain ⟨s, hopen, hdecoded⟩ := readsFile_iff.mp h
  have hlines := TextStream.lines_of_decoded hdecoded
  have hend : s.lines.2 = none := by rw [hlines]
  have hstate : (r.loadStream path s).1 = _ := (loadStream_of_lines hend).1
  have hresult : (r.loadStream path s).2.result = _ := (loadStream_of_lines hend).2
  rw [hlines] at hstate hresult
  exact ⟨(loadFile_of_openFile hopen).1.trans hstate, (loadFile_of_openFile hopen).2.trans hresult⟩

/-- A store comes only of a file that is read to its end. -/
theorem exists_readsFile_of_result {store : NeighborStore}
    (h : (r.loadFile fs path).2.result = .ok store) : ∃ cs, r.ReadsFile fs path cs := by
  cases hopen : TextStream.openFile fs path r.settings.encoding with
  | error f => simp [loadFile, hopen] at h
  | ok s =>
    rw [(loadFile_of_openFile hopen).2, result_loadStream_eq_ok_iff,
      TextStream.lines_failure] at h
    exact ⟨_, readsFile_iff.mpr ⟨s, hopen, Prod.ext rfl h.1⟩⟩

theorem exists_result_loadFile_iff :
    (∃ store, (r.loadFile fs path).2.result = .ok store) ↔
      ∃ cs, r.ReadsFile fs path cs ∧ ∀ line ∈ (linesOfWhole cs).map String.ofList,
        ∀ x ∈ r.index.subject? line, x.isHashable := by
  constructor
  · rintro ⟨store, h⟩
    obtain ⟨cs, hcs⟩ := exists_readsFile_of_result h
    rw [(loadFile_of_readsFile hcs).2] at h
    exact ⟨cs, hcs, exists_result_loadLines_iff.mp ⟨store, h⟩⟩
  · rintro ⟨cs, hcs, h⟩
    rw [(loadFile_of_readsFile hcs).2]
    exact exists_result_loadLines_iff.mpr h

/-- A file that is not opened leaves the reader as it was. -/
theorem loadFile_of_openFile_error {f : StreamFailure}
    (h : TextStream.openFile fs path r.settings.encoding = .error f) :
    (r.loadFile fs path).1 = r ∧ (r.loadFile fs path).2.result = .error (.ofStreamFailure f) := by
  simp only [loadFile, h, and_self]

/-- A load finds a file unreadable for the reason that the file is, unless a subject that cannot
be a key comes first. -/
theorem result_loadFile_eq_unreadable_iff {f : ReadFailure} :
    (r.loadFile fs path).2.result = .error (.unreadable f) ↔
      ∃ lines, r.FailsAfter fs path lines f ∧
        ∀ line ∈ lines, ∀ x ∈ r.index.subject? line, x.isHashable := by
  constructor
  · intro h
    cases hopen : TextStream.openFile fs path r.settings.encoding with
    | error g =>
      rw [(loadFile_of_openFile_error hopen).2, Except.error.injEq] at h
      obtain ⟨-, rfl⟩ | ⟨hpath, ⟨e, hread, rfl⟩ | ⟨bytes, g, -, -, rfl⟩⟩ :=
        TextStream.openFile_eq_error_iff.mp hopen
      · cases h
      · cases h
        exact ⟨[], .opening hpath hread, by simp⟩
      · cases h
    | ok s =>
      rw [(loadFile_of_openFile hopen).2, result_loadStream_eq_error_iff] at h
      obtain ⟨-, hf⟩ | ⟨hkeys, g, hg, hf⟩ := h
      · cases hf
      obtain ⟨e, rfl, hfailure⟩ | ⟨e, rfl⟩ | ⟨rfl, -⟩ | ⟨wording, d, rfl, -⟩ :=
        TextStream.failure_cases hg
      · cases hf
        exact ⟨_, .unpacking hopen hfailure (Prod.ext rfl hg), hkeys⟩
      · cases hf
        exact ⟨_, .decoding hopen (Prod.ext rfl hg), hkeys⟩
      · cases hf
      · cases hf
  · rintro ⟨lines, hfails, h⟩
    cases hfails with
    | opening hpath hread =>
      exact (loadFile_of_openFile_error (TextStream.openFile_eq_error_iff.mpr
        (.inr ⟨hpath, .inl ⟨_, hread, rfl⟩⟩))).2
    | unpacking hopen hfailure hlines | decoding hopen hlines =>
      rw [(loadFile_of_openFile hopen).2]
      exact (loadStream_of_failure (by rw [hlines]) (by rwa [hlines])).2

/-- What a file that is opened fails to be loaded for. -/
theorem loadFailure_cases {s : TextStream} {f : LoadFailure}
    (hopen : TextStream.openFile fs path r.settings.encoding = .ok s)
    (h : (r.loadFile fs path).2.result = .error f) :
    (∃ g, f = .unreadable g) ∨
    (f = .unhashableSubject ∧
      ∃ line ∈ s.lines.1, ∃ x ∈ r.index.subject? line, x.isHashable = false) ∨
    f = .missingMark ∧ s.LacksMark ∨
    ∃ wording d, f = .refused wording ∧ s.encoding = .foreign d := by
  rw [(loadFile_of_openFile hopen).2, result_loadStream_eq_error_iff] at h
  obtain ⟨hkeys, rfl⟩ | ⟨-, g, hg, rfl⟩ := h
  · exact .inr (.inl ⟨rfl, by simpa using hkeys⟩)
  obtain ⟨e, rfl, -⟩ | ⟨e, rfl⟩ | ⟨rfl, hmark⟩ | ⟨wording, d, rfl, hd⟩ :=
    TextStream.failure_cases hg
  · exact .inl ⟨_, rfl⟩
  · exact .inl ⟨_, rfl⟩
  · exact .inr (.inr (.inl ⟨rfl, hmark⟩))
  · exact .inr (.inr (.inr ⟨wording, d, rfl, hd⟩))

/-- A load fails because of the encoding if the file is opened and the encoding is not known. -/
theorem result_loadFile_eq_encoding_iff {g : EncodingFault} :
    (r.loadFile fs path).2.result = .error (.encoding g) ↔ path.contains '\x00' = false ∧
      ∃ bytes, fs.read path = .ok bytes ∧ Encoding.ofSetting r.settings.encoding = .error g := by
  constructor
  · intro h
    cases hopen : TextStream.openFile fs path r.settings.encoding with
    | error f =>
      rw [(loadFile_of_openFile_error hopen).2, Except.error.injEq] at h
      obtain ⟨-, rfl⟩ | ⟨hpath, ⟨e, -, rfl⟩ | ⟨bytes, g', hread, hsetting, rfl⟩⟩ :=
        TextStream.openFile_eq_error_iff.mp hopen
      · cases h
      · cases h
      · cases h
        exact ⟨hpath, bytes, hread, hsetting⟩
    | ok s =>
      obtain ⟨_, hf⟩ | ⟨hf, -⟩ | ⟨hf, -⟩ | ⟨_, _, hf, -⟩ := loadFailure_cases hopen h <;> cases hf
  · rintro ⟨hpath, bytes, hread, hsetting⟩
    exact (loadFile_of_openFile_error (TextStream.openFile_eq_error_iff.mpr
      (.inr ⟨hpath, .inr ⟨bytes, g, hread, hsetting, rfl⟩⟩))).2

end

/-- The outcome of loading a file.

- A store comes of it if and only if it is opened, its encoding is known, it is unpacked and
  decoded to its end, and the subjects of its lines can be keys. The store, and the state of the
  reader, are then those of its lines.
- It is found unreadable if and only if it fails to be opened, unpacked or decoded, after lines
  whose subjects can be keys; this failure is the reason.
- A path with the character U+0000, a file that is not opened and an encoding that is unknown
  leave the reader as it was.
- What else an opened file fails for is a line that was read whose subject cannot be a key, a text
  in UTF-16 that begins without its mark, or bytes that a decoder refuses which is not the
  library's own.

This holds on every platform, whatever encodings it knows and in whatever pieces a file arrives. -/
theorem loadFile_outcome [Platform] (r : NeighborReader) (fs : FileSystem) (path : String) :
    ((∃ store, (r.loadFile fs path).2.result = .ok store) ↔
      ∃ cs, r.ReadsFile fs path cs ∧ ∀ line ∈ (linesOfWhole cs).map String.ofList,
        ∀ x ∈ r.index.subject? line, x.isHashable) ∧
    (∀ cs, r.ReadsFile fs path cs →
      (r.loadFile fs path).1 = (r.loadLines ((linesOfWhole cs).map String.ofList)).1 ∧
      (r.loadFile fs path).2.result =
        (r.loadLines ((linesOfWhole cs).map String.ofList)).2.result) ∧
    (∀ f, (r.loadFile fs path).2.result = .error (.unreadable f) ↔
      ∃ lines, r.FailsAfter fs path lines f ∧
        ∀ line ∈ lines, ∀ x ∈ r.index.subject? line, x.isHashable) ∧
    (path.contains '\x00' = true →
      (r.loadFile fs path).1 = r ∧ (r.loadFile fs path).2.result = .error .pathContainsNul) ∧
    (∀ e, path.contains '\x00' = false → fs.read path = .error e →
      (r.loadFile fs path).1 = r ∧
      (r.loadFile fs path).2.result = .error (.unreadable (.opening e))) ∧
    (∀ bytes g, path.contains '\x00' = false → fs.read path = .ok bytes →
      Encoding.ofSetting r.settings.encoding = .error g →
      (r.loadFile fs path).1 = r ∧ (r.loadFile fs path).2.result = .error (.encoding g)) ∧
    ∀ s f, TextStream.openFile fs path r.settings.encoding = .ok s →
      (r.loadFile fs path).2.result = .error f →
      (∃ g, f = .unreadable g) ∨
      (f = .unhashableSubject ∧
        ∃ line ∈ s.lines.1, ∃ x ∈ r.index.subject? line, x.isHashable = false) ∨
      f = .missingMark ∧ s.LacksMark ∨
      ∃ wording d, f = .refused wording ∧ s.encoding = .foreign d := by
  have hunopened : ∀ f : StreamFailure,
      TextStream.openFile fs path r.settings.encoding = .error f →
        (r.loadFile fs path).1 = r ∧
          (r.loadFile fs path).2.result = .error (.ofStreamFailure f) :=
    fun _ => loadFile_of_openFile_error
  simp only [TextStream.openFile_eq_error_iff] at hunopened
  refine ⟨exists_result_loadFile_iff, fun _ => loadFile_of_readsFile,
    fun _ => result_loadFile_eq_unreadable_iff, ?nul, ?opening, ?encoding,
    fun _ _ => loadFailure_cases⟩
  case nul => exact fun hpath => hunopened _ (.inl ⟨hpath, rfl⟩)
  case opening => exact fun e hpath hread => hunopened _ (.inr ⟨hpath, .inl ⟨e, hread, rfl⟩⟩)
  case encoding =>
    exact fun bytes g hpath hread hsetting =>
      hunopened _ (.inr ⟨hpath, .inr ⟨bytes, g, hread, hsetting, rfl⟩⟩)

/-- A compressed file of two bytes, a file that is not there, and one that is read. -/
theorem loadFile_outcome_missing :
    (repeatReader.loadFile (filesWith [0x1f, 0x8b]) "x").2.result =
        .error (.unreadable (.unpacking .truncated)) ∧
      (repeatReader.loadFile (filesWith [0x1f, 0x8b]) "y").1 = repeatReader ∧
      (repeatReader.loadFile (filesWith [0x1f, 0x8b]) "y").2.result =
        .error (.unreadable (.opening ⟨.notFound, "y"⟩)) ∧
      ∃ store, (repeatReader.loadFile (filesWith [0x78]) "x").2.result = .ok store := by
  have hopen : TextStream.openFile (filesWith [0x1f, 0x8b]) "x" repeatReader.settings.encoding =
      .ok ⟨Encoding.utf8, ⟨[], some .truncated⟩⟩ :=
    TextStream.openFile_eq_ok_iff.mpr
      ⟨contains_zero_x, _, _, read_filesWith _, ofSetting_repeat, rfl⟩
  have hfails : repeatReader.FailsAfter (filesWith [0x1f, 0x8b]) "x" [] (.unpacking .truncated) :=
    .unpacking hopen rfl rfl
  have hdeliver : Gzip.deliver [0x78] = Delivery.ofBytes [0x78] :=
    Gzip.deliver_of_not_isCompressed rfl
  have hreads : repeatReader.ReadsFile (filesWith [0x78]) "x" ['x'] := by
    refine ⟨contains_zero_x, _, _, read_filesWith _, ofSetting_repeat, ?_⟩
    rw [hdeliver]
    have hwrites : [0x78] = Utf8.encode ['x'] := by decide
    exact ⟨rfl, .inl ((Delivery.bytes_ofBytes (ε := GzipError) [0x78]).trans hwrites)⟩
  obtain ⟨-, -, hunreadable, -, -⟩ := loadFile_outcome repeatReader (filesWith [0x1f, 0x8b]) "x"
  obtain ⟨-, -, -, -, hopening, -⟩ := loadFile_outcome repeatReader (filesWith [0x1f, 0x8b]) "y"
  obtain ⟨hstore, -⟩ := loadFile_outcome repeatReader (filesWith [0x78]) "x"
  obtain ⟨hstate, hmissing⟩ := hopening _ contains_zero_y (read_filesWith_other _)
  exact ⟨(hunreadable _).mpr ⟨[], hfails, by simp⟩, hstate, hmissing,
    hstore.mpr ⟨_, hreads, by decide +kernel⟩⟩

end NeighborReader

end Vicinity
