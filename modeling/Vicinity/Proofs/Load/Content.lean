import Vicinity.Proofs.Index.Pass
import Vicinity.Proofs.Load.Outcome
import Vicinity.Proofs.Text.Registered

/-!
# What the content of a file can do

If the identifiers of all objects can be keys, then so can the subject of every line
(`LabelIndex.isHashable_of_subject?`), and a load fails only because of the content of its file.
Such a failure is reported as a file that is unreadable, and says why. There is one exception : a
text in UTF-16 without its mark fails in a way of its own (`NeighborReader.loadFile_content`),
though only if it begins with a character, and not with something that is none.
-/

namespace Vicinity

open Text

/-- All objects of a source have identifiers that can be keys. -/
def SourceItem.HaveKeys (items : List SourceItem) : Prop :=
  ∀ item ∈ items, ∀ r, item.coerce = .ok r → r.id.isHashable

/-- The subject of a line is one of the objects. -/
theorem LabelIndex.isHashable_of_subject? [Platform] {items : List SourceItem} {warn : Bool}
    {index : LabelIndex} (hindex : (build items warn).result = .ok index)
    (hkeys : SourceItem.HaveKeys items) {line : String} {x : Value}
    (hx : x ∈ index.subject? line) : x.isHashable := by
  obtain ⟨label, -, hlabel⟩ := Option.bind_eq_some_iff.mp hx
  obtain ⟨item, hmem, r, hitem, rfl⟩ := exists_of_resolve? hindex hlabel
  exact hkeys item hmem r hitem

namespace NeighborReader

section

variable [Platform] {r : NeighborReader} {fs : FileSystem} {path : String} {items : List SourceItem}
  {warn : Bool} {bytes : List UInt8} {e : Encoding}

/-- The text is in UTF-16 and some of the first pieces of its bytes hold a character, without a
mark before it and without a fault. -/
def MissesMark (e : Encoding) (bytes : List UInt8) : Prop :=
  e = .utf16 ∧
    ∃ front, front <+: (Gzip.deliver bytes).pieces ∧ Decoder.IsUnmarked front.flatten

theorem missesMark_of_isUnmarked (hplain : Gzip.isCompressed bytes = false)
    (h : Decoder.IsUnmarked bytes) : MissesMark .utf16 bytes := by
  have hbytes : (Gzip.deliver bytes).bytes = bytes := by
    rw [Gzip.deliver_of_not_isCompressed hplain, Delivery.bytes_ofBytes]
  have hunmarked : Decoder.IsUnmarked (Gzip.deliver bytes).bytes := by rwa [hbytes]
  exact ⟨rfl, _, List.prefix_rfl, hunmarked⟩

theorem missesMark_iff :
    MissesMark e bytes ↔ (TextStream.lines ⟨e, Gzip.deliver bytes⟩).2 = some .missingMark := by
  rw [TextStream.lines_failure_eq_missingMark_iff, MissesMark, TextEncoding.own.injEq]

/-- The mark is missed only where there is none. -/
theorem MissesMark.lacksMark (h : MissesMark e bytes) :
    TextStream.LacksMark ⟨e, Gzip.deliver bytes⟩ := by
  have hmissing : (TextStream.lines ⟨e, Gzip.deliver bytes⟩).2 = some .missingMark :=
    missesMark_iff.mp h
  obtain ⟨_, hf, -⟩ | ⟨_, hf⟩ | ⟨-, hlacks⟩ | ⟨_, _, hf, -⟩ := TextStream.failure_cases hmissing
  · cases hf
  · cases hf
  · exact hlacks
  · cases hf

/-- A load misses the mark of UTF-16 if its file does. -/
theorem result_loadFile_eq_missingMark_iff
    (hindex : (LabelIndex.build items warn).result = .ok r.index)
    (hkeys : SourceItem.HaveKeys items) (hpath : path.contains '\x00' = false)
    (hread : fs.read path = .ok bytes)
    (hsetting : Encoding.ofSetting r.settings.encoding = .ok (.own e)) :
    (r.loadFile fs path).2.result = .error .missingMark ↔ MissesMark e bytes := by
  have hsubjects : ∀ line ∈ (TextStream.lines ⟨e, Gzip.deliver bytes⟩).1,
      ∀ x ∈ r.index.subject? line, x.isHashable := fun _ _ _ hx =>
    LabelIndex.isHashable_of_subject? hindex hkeys hx
  rw [(loadFile_of_read hpath hread hsetting).2, result_loadStream_eq_error_iff,
    and_iff_right hsubjects, or_iff_right (fun h => h.1 hsubjects), missesMark_iff]
  constructor
  · rintro ⟨g, hg, hmissing⟩
    cases g <;> first | exact hg | cases hmissing
  · exact fun h => ⟨_, h, rfl⟩

/-- What comes of the content of a file if the identifiers of all objects can be keys. It gives a
store, or it is unreadable for the reason that it is unpacked or decoded no further, unless it is
in UTF-16 and lacks its mark. This is a failure of its own. -/
theorem loadFile_content (hindex : (LabelIndex.build items warn).result = .ok r.index)
    (hkeys : SourceItem.HaveKeys items) (hpath : path.contains '\x00' = false)
    (hread : fs.read path = .ok bytes)
    (hsetting : Encoding.ofSetting r.settings.encoding = .ok (.own e)) :
    (((∃ store, (r.loadFile fs path).2.result = .ok store) ∨
        ∃ lines f, r.FailsAfter fs path lines f ∧
          (r.loadFile fs path).2.result = .error (.unreadable f)) ↔ ¬ MissesMark e bytes) ∧
      ((r.loadFile fs path).2.result = .error .missingMark ↔ MissesMark e bytes) := by
  have hmissing := result_loadFile_eq_missingMark_iff hindex hkeys hpath hread hsetting
  have hopen : TextStream.openFile fs path r.settings.encoding = .ok ⟨e, Gzip.deliver bytes⟩ :=
    TextStream.openFile_eq_ok_iff.mpr ⟨hpath, bytes, e, hread, hsetting, rfl⟩
  refine ⟨⟨?_, ?_⟩, hmissing⟩
  · rw [← hmissing]
    rintro (⟨store, h⟩ | ⟨lines, f, -, h⟩) <;> simp [h]
  · intro hmark
    cases hresult : (r.loadFile fs path).2.result with
    | ok store => exact .inl ⟨store, rfl⟩
    | error f =>
      obtain ⟨g, rfl⟩ | ⟨rfl, line, -, x, hx, hkey⟩ | ⟨rfl, -⟩ | ⟨_, _, -, hforeign⟩ :=
        loadFailure_cases hopen hresult
      · obtain ⟨lines, hfails, -⟩ := result_loadFile_eq_unreadable_iff.mp hresult
        exact .inr ⟨lines, g, hfails, rfl⟩
      · rw [LabelIndex.isHashable_of_subject? hindex hkeys hx] at hkey
        cases hkey
      · exact absurd (hmissing.mp hresult) hmark
      · cases hforeign

end

/-- One object. -/
def singleItems : List SourceItem := [.record ⟨.int 1, [.text "a"], none⟩]

/-- A reader of files in UTF-16 against the index of this object. -/
def singleReader : NeighborReader where
  index := ⟨.ofList [(.text "a", .int 1)], 1, []⟩
  settings := { encoding := .text "UTF-16" }

theorem result_build_single (warn : Bool) :
    (LabelIndex.build singleItems warn).result = .ok singleReader.index := rfl

theorem haveKeys_single : SourceItem.HaveKeys singleItems := by
  intro item hitem r hr
  obtain rfl := List.mem_singleton.mp hitem
  cases hr
  rfl

theorem ofSetting_single : Encoding.ofSetting singleReader.settings.encoding =
    .ok (.own .utf16) := by
  have hnamed : Encoding.named? "UTF-16" = some .utf16 := by decide +kernel
  exact Encoding.ofSetting_of_named? (by decide) hnamed

/-- The letter `a`, without a mark. -/
def unmarkedBytes : List UInt8 := [0x61, 0]

theorem missesMark_unmarked : MissesMark .utf16 unmarkedBytes := by
  have hreads : (Codec.utf16 .littleEndian).Reads unmarkedBytes ['a'] [] := .char rfl (.done [])
  exact missesMark_of_isUnmarked rfl
    ⟨rfl, 'a', [], [], Codec.decode_eq_ok_iff.mpr ⟨.inl rfl, hreads⟩⟩

theorem loadFile_content_single :
    (singleReader.loadFile (filesWith unmarkedBytes) "x").2.result = .error .missingMark ∧
      ((∃ store, (singleReader.loadFile (filesWith (0xff :: 0xfe :: unmarkedBytes)) "x").2.result =
          .ok store) ∨
        ∃ lines f, singleReader.FailsAfter (filesWith (0xff :: 0xfe :: unmarkedBytes)) "x" lines f ∧
          (singleReader.loadFile (filesWith (0xff :: 0xfe :: unmarkedBytes)) "x").2.result =
            .error (.unreadable f)) := by
  obtain ⟨-, hunmarked⟩ := loadFile_content (result_build_single true) haveKeys_single
    contains_zero_x (read_filesWith unmarkedBytes) ofSetting_single
  obtain ⟨hmarked, -⟩ := loadFile_content (result_build_single true) haveKeys_single
    contains_zero_x (read_filesWith (0xff :: 0xfe :: unmarkedBytes)) ofSetting_single
  refine ⟨hunmarked.mpr missesMark_unmarked, hmarked.mpr fun hmisses => ?_⟩
  obtain ⟨-, -, hnone⟩ := hmisses.lacksMark
  rw [Gzip.deliver_of_not_isCompressed rfl, Delivery.bytes_ofBytes] at hnone
  cases hnone

/-- Not every failure that the content of a file causes is reported as a file that is
unreadable. -/
theorem not_forall_loadFile_unreadable :
    ¬ ∀ (r : NeighborReader) (fs : FileSystem) (path : String) (items : List SourceItem)
      (warn : Bool) (bytes : List UInt8) (e : Encoding),
      (LabelIndex.build items warn).result = .ok r.index → SourceItem.HaveKeys items →
      path.contains '\x00' = false → fs.read path = .ok bytes →
      Encoding.ofSetting r.settings.encoding = .ok (.own e) →
        (∃ store, (r.loadFile fs path).2.result = .ok store) ∨
          ∃ f, (r.loadFile fs path).2.result = .error (.unreadable f) := by
  intro h
  have hmissing := (result_loadFile_eq_missingMark_iff (result_build_single true) haveKeys_single
    contains_zero_x (read_filesWith unmarkedBytes) ofSetting_single).mpr missesMark_unmarked
  obtain ⟨store, hstore⟩ | ⟨f, hf⟩ := h singleReader (filesWith unmarkedBytes) "x" singleItems true
    unmarkedBytes .utf16 (result_build_single true) haveKeys_single contains_zero_x
    (read_filesWith _) ofSetting_single
  · rw [hmissing] at hstore
    cases hstore
  · rw [hmissing] at hf
    cases hf

end NeighborReader

end Vicinity
