import Vicinity.Proofs.Gzip.Damaged
import Vicinity.Proofs.Load.Outcome
import Vicinity.Proofs.Text.LineEnds

/-!
# What a load that failed leaves behind

A file that is found unreadable after it was opened leaves the reader as the first of its lines
do, but for the entries, which are counted only after the last line
(`NeighborReader.loadFile_unreadable`). How many lines these are is known if the file is damaged
at its end only (`FailsAtEnd`) : the whole text was decoded by then, and all of its lines that are
ended were read.
-/

namespace Vicinity

open Text

/-! ## Files that are damaged at their end -/

/-- The bytes contain the text `cs`, all of it, and what is wrong comes after it : the tail of the
only member does not match its content, or bytes follow it that are no member, or they are a text
in UTF-8 that is followed by a part of a character. -/
inductive FailsAtEnd (e : Encoding) : List UInt8 → List Char → Prop
  | wrongTail {bytes content tail : List UInt8} {cs : List Char}
      (hmember : Gzip.HasTail content tail bytes) (htail : ¬ Gzip.IsTail content tail)
      (hcs : e.Decodes content cs) : FailsAtEnd e bytes cs
  | followed {bytes content tail junk : List UInt8} {cs : List Char}
      (hmember : Gzip.HasTail content tail bytes) (htail : Gzip.IsTail content tail)
      (hjunk : (tail.drop 8).dropWhile (· = 0) = junk) (hne : junk ≠ [])
      (hplain : Gzip.isCompressed junk = false) (hcs : e.Decodes content cs) :
      FailsAtEnd e bytes cs
  | cutCharacter {cs : List Char} {c : Char} {part : List UInt8} (he : e = .utf8)
      (hpre : part <+: String.utf8EncodeChar c) (hne : part ≠ [])
      (hcut : part ≠ String.utf8EncodeChar c) : FailsAtEnd e (Utf8.encode cs ++ part) cs

/-- If a content is delivered before a failure, its text is decoded before this failure. -/
theorem TextStream.decoded_of_decodes {e : Encoding} {content : List UInt8} {cs : List Char}
    (h : e.Decodes content cs) {pieces : List (List UInt8)} (hpieces : pieces.flatten = content)
    (g : GzipError) :
    TextStream.decoded ⟨e, ⟨pieces, some g⟩⟩ = (cs, some (.reading (.unpacking g))) := by
  refine decoded_of_yields rfl rfl (Encoding.yields_iff_decodes.mpr ?_)
  rwa [Delivery.bytes, hpieces]

section

variable [Platform]

/-- Of such a file the whole text is decoded before it fails. -/
theorem FailsAtEnd.exists_decoded {e : Encoding} {bytes : List UInt8} {cs : List Char}
    (h : FailsAtEnd e bytes cs) :
    ∃ f, TextStream.decoded ⟨e, Gzip.deliver bytes⟩ = (cs, some (.reading f)) := by
  cases h with
  | wrongTail hmember htail hcs =>
    obtain ⟨g, hdeliver⟩ := Gzip.deliver_of_not_isTail hmember htail
    rw [hdeliver]
    exact ⟨_, TextStream.decoded_of_decodes hcs (Platform.flatten_cut _ _) g⟩
  | followed hmember htail hjunk hne hplain hcs =>
    rw [Gzip.deliver_of_followed hmember htail hjunk hne hplain]
    exact ⟨_, TextStream.decoded_of_decodes hcs (Platform.flatten_cut _ _) _⟩
  | @cutCharacter cs c part he hpre hne hcut =>
    rw [Gzip.deliver_of_not_isCompressed (Utf8.not_isCompressed_encode_append hpre)]
    obtain ⟨g, hdecoded⟩ := TextStream.decoded_of_cut (s := ⟨e, .ofBytes (Utf8.encode cs ++ part)⟩)
      (congrArg TextEncoding.own he) rfl hpre hne hcut
    exact ⟨_, hdecoded⟩

end

/-! ## What is left behind -/

namespace Load

/-- The load without its entries, as they are before the last line. -/
def unfinished (l : Load) : Load := { l with stats := { l.stats with entries := 0 } }

theorem unfinished_finish {l : Load} (h : l.stats.entries = 0) : l.finish.unfinished = l := by
  rw [finish, unfinished, ← h]

end Load

namespace NeighborReader

/-- A file that is damaged at its end is found unreadable, unless a subject cannot be a key. -/
theorem exists_unreadable_of_failsAtEnd [Platform] {r : NeighborReader} {fs : FileSystem}
    {path : String} {bytes : List UInt8} {e : Encoding} {cs : List Char}
    (hpath : path.contains '\x00' = false)
    (hread : fs.read path = .ok bytes)
    (hsetting : Encoding.ofSetting r.settings.encoding = .ok (.own e))
    (hfails : FailsAtEnd e bytes cs)
    (hkeys : ∀ line ∈ (linesOfBroken cs).map String.ofList,
      ∀ x ∈ r.index.subject? line, x.isHashable) :
    ∃ f, (r.loadFile fs path).2.result = .error (.unreadable f) := by
  obtain ⟨f, hdecoded⟩ := hfails.exists_decoded
  have hlines := TextStream.lines_of_decoded_failure hdecoded
  have hfailure : (TextStream.lines ⟨e, Gzip.deliver bytes⟩).2 = some (.reading f) := by
    rw [hlines]
  refine ⟨f, ?_⟩
  rw [(loadFile_of_read hpath hread hsetting).2,
    (loadStream_of_failure hfailure (by rwa [hlines])).2]
  rfl

/-- A file that is opened and found unreadable leaves the reader as the first `k` lines of what was
decoded of it do, without their entries. If it is damaged at its end only, this is its whole text,
and `k` is the number of its line ends. -/
theorem loadFile_unreadable [Platform] {r : NeighborReader} {fs : FileSystem} {path : String}
    {s : TextStream} {f : ReadFailure}
    (hopen : TextStream.openFile fs path r.settings.encoding = .ok s)
    (h : (r.loadFile fs path).2.result = .error (.unreadable f)) :
    ∃ k ≤ (linesOfWhole s.decoded.1).length,
      let front := ((linesOfWhole s.decoded.1).take k).map String.ofList
      (∃ store, (r.loadLines front).2.result = .ok store) ∧
      (r.loadFile fs path).1 = { r with last := (r.loadLines front).1.last.unfinished } ∧
      (r.loadFile fs path).1.last.lineNumber = k ∧
      ∀ (e : Encoding) bytes cs, s.encoding = e → fs.read path = .ok bytes →
        FailsAtEnd e bytes cs → s.decoded.1 = cs ∧ k = lineEnds cs := by
  obtain ⟨hstate, hresult⟩ := loadFile_of_openFile hopen
  rw [hresult, result_loadStream_eq_error_iff] at h
  obtain ⟨-, hf⟩ | ⟨hkeys, g, hg, -⟩ := h
  · cases hf
  rw [(loadStream_of_failure hg hkeys).1] at hstate
  -- the lines that are read before the failure are the first ones
  have hdecoded : s.decoded = (s.decoded.1, some g) := Prod.ext rfl (s.lines_failure ▸ hg)
  have hlines := TextStream.lines_of_decoded_failure hdecoded
  have hpre : linesOfBroken s.decoded.1 <+: linesOfWhole s.decoded.1 := by
    have := linesOfBroken_isPrefix s.decoded.1 []
    rwa [List.append_nil] at this
  have hlength : s.lines.1.length = (linesOfBroken s.decoded.1).length := by
    rw [hlines, List.length_map]
  refine ⟨(linesOfBroken s.decoded.1).length, hpre.length_le, ?_⟩
  have hfront : ((linesOfWhole s.decoded.1).take (linesOfBroken s.decoded.1).length).map
      String.ofList = s.lines.1 := by
    rw [← List.prefix_iff_eq_take.mp hpre, hlines]
  simp only [hfront]
  refine ⟨exists_result_loadLines_iff.mpr hkeys, ?state, ?number, ?atEnd⟩
  case state =>
    have hentries : (r.loaded s.lines.1).stats.entries = 0 :=
      Load.entries_afterLines r.settings.options r.index {} _
    rw [hstate, loadLines_of_isHashable hkeys, Load.unfinished_finish hentries]
  case number =>
    rw [hstate, ← hlength]
    exact (Load.lineNumber_afterLines r.settings.options r.index {} _).trans (Nat.zero_add _)
  case atEnd =>
    intro e bytes cs hencoding hread hfails
    obtain ⟨-, bytes', e', hread', -, rfl⟩ := TextStream.openFile_eq_ok_iff.mp hopen
    obtain rfl : e' = e := hencoding
    obtain rfl : bytes = bytes' := Except.ok.inj (hread.symm.trans hread')
    obtain ⟨f', hall⟩ := hfails.exists_decoded
    rw [hall]
    exact ⟨rfl, length_linesOfBroken cs⟩

/-- The file of two lines and a part of a third, in a member whose length is wrong. -/
def damagedMember : List UInt8 :=
  [0x1f, 0x8b, 8, 0, 0, 0, 0, 0, 0, 0xff, 1, 7, 0, 0xf8, 0xff, 0x78, 0x20, 0x78, 0x0a, 0x79, 0x0a,
    0x78, 0, 0, 0, 0, 0, 0, 0, 0]

theorem failsAtEnd_damagedMember : FailsAtEnd .utf8 damagedMember "x x\ny\nx".toList := by
  let head : Gzip.Head := ⟨false, [0, 0, 0, 0], 0, 0xff, none, none, none, none, rfl,
    by simp, by simp, by simp, by simp⟩
  let content : List UInt8 := [0x78, 0x20, 0x78, 0x0a, 0x79, 0x0a, 0x78]
  have hdata : Deflate.IsData content ([1, 7, 0, 0xf8, 0xff] ++ content) :=
    ⟨_, [], .last (.stored (List.replicate 5 false) content rfl (by decide) (by decide)),
      by decide, by decide +kernel⟩
  have hbytes : damagedMember =
      head.bytes ++ ([1, 7, 0, 0xf8, 0xff] ++ content ++ List.replicate 8 0) := by decide +kernel
  have htail : ¬ Gzip.IsTail content (List.replicate 8 0) := by
    rintro ⟨-, -, hlength⟩
    cases hlength
  rw [hbytes]
  exact .wrongTail (Gzip.hasTail_of_isData head hdata) htail
    (.inl (show _ = Utf8.encode _ by decide +kernel))

/-- The load fails at the third line, and the reader stands at the second. -/
theorem loadFile_unreadable_damaged :
    ∃ f, (repeatReader.loadFile (filesWith damagedMember) "x").2.result =
        .error (.unreadable f) ∧
      (repeatReader.loadFile (filesWith damagedMember) "x").1 =
        { repeatReader with
          last := (repeatReader.loadLines ["x x\n", "y\n"]).1.last.unfinished } ∧
      (repeatReader.loadFile (filesWith damagedMember) "x").1.last.lineNumber = 2 := by
  have hopen : TextStream.openFile (filesWith damagedMember) "x" repeatReader.settings.encoding =
      .ok ⟨Encoding.utf8, Gzip.deliver damagedMember⟩ :=
    TextStream.openFile_eq_ok_iff.mpr
      ⟨contains_zero_x, _, _, read_filesWith _, ofSetting_repeat, rfl⟩
  have hkeys : ∀ line ∈ (linesOfBroken "x x\ny\nx".toList).map String.ofList,
      ∀ x ∈ repeatReader.index.subject? line, x.isHashable := by decide +kernel
  obtain ⟨f, hresult⟩ := exists_unreadable_of_failsAtEnd contains_zero_x (read_filesWith _)
    ofSetting_repeat failsAtEnd_damagedMember hkeys
  obtain ⟨k, -, -, hstate, hnumber, hatEnd⟩ := loadFile_unreadable hopen hresult
  obtain ⟨htext, rfl⟩ := hatEnd _ _ _ rfl (read_filesWith _) failsAtEnd_damagedMember
  have hfront : ((linesOfWhole "x x\ny\nx".toList).take (lineEnds "x x\ny\nx".toList)).map
      String.ofList = ["x x\n", "y\n"] := by decide +kernel
  rw [htext, hfront] at hstate
  exact ⟨f, hresult, hstate, hnumber.trans (by decide +kernel)⟩

end NeighborReader

end Vicinity
