import Vicinity.Proofs.Gzip.Step
import Vicinity.Proofs.Text.Encoding
import Vicinity.Proofs.Text.LineEnds
import Vicinity.Proofs.Text.Tokens

/-!
# What is read of a file

What a stream delivers is decoded as one, whatever its pieces are
(`TextStream.decoded_eq_iff`). A file that is not compressed is therefore read to its end if and
only if its bytes are a text in the encoding, and what is delivered are the lines of this text
(`TextStream.lines_of_bytes`).

Four of the encodings never begin a text with the two bytes that tell a compressed file
(`Encoding.Writes.not_isCompressed`).
-/

namespace Vicinity

open Text

/-! ## Streams -/

namespace TextStream

/-- A stream is decoded to its end if and only if its bytes are all delivered and its pieces, and
then their end, are decoded. -/
theorem decoded_eq_iff_feedAll {s : TextStream} {cs : List Char} :
    s.decoded = (cs, none) ↔
      s.delivery.failure = none ∧
        ∃ cs₁ d cs₂, s.encoding.decoder.feedAll s.delivery.pieces = (cs₁, .ok d) ∧
          d.Yields [] cs₂ ∧ cs = cs₁ ++ cs₂ := by
  rw [decoded]
  constructor
  · intro h
    split at h
    · cases h
    · rename_i cs₁ d hall
      split at h
      · cases h
      · rename_i hfailure
        split at h
        · cases h
        · rename_i cs₂ d' hfeed
          cases h
          exact ⟨hfailure, cs₁, d, cs₂, hall, ⟨d', hfeed⟩, rfl⟩
  · rintro ⟨hfailure, cs₁, d, cs₂, hall, ⟨d', hfeed⟩, rfl⟩
    rw [hall]
    simp only [hfailure, hfeed]

/-- The pieces do not matter : what counts is that their bytes yield characters. -/
theorem decoded_eq_iff {s : TextStream} (hs : s.encoding.Joins) {cs : List Char} :
    s.decoded = (cs, none) ↔
      s.delivery.failure = none ∧ s.encoding.decoder.Yields s.delivery.bytes cs := by
  rw [decoded_eq_iff_feedAll, Delivery.bytes, Decoder.yields_flatten_iff hs.decoder]

theorem lines_of_decoded {s : TextStream} {cs : List Char} (h : s.decoded = (cs, none)) :
    s.lines = ((linesOfWhole cs).map String.ofList, none) := by
  simp only [lines, h]

/-- Of a stream that delivers a text in its encoding the lines of this text are read. -/
theorem lines_of_writes {e : Encoding} {delivery : Delivery GzipError} {cs : List Char}
    (hfailure : delivery.failure = none) (hsigned : e = .utf8Signed → 3 ≤ delivery.bytes.length)
    (h : e.Writes cs delivery.bytes) :
    lines ⟨e, delivery⟩ = ((linesOfWhole cs).map String.ofList, none) :=
  lines_of_decoded ((decoded_eq_iff (s := ⟨e, delivery⟩) trivial).mpr
    ⟨hfailure, (Encoding.yields_iff_writes hsigned).mpr h⟩)

theorem lines_failure (s : TextStream) : s.lines.2 = s.decoded.2 := by
  rw [lines]
  split
  · rename_i h
    rw [h]
  · rename_i h
    rw [h]

/-- A stream is read to its end if and only if its bytes are all delivered and yield a text. -/
theorem lines_failure_eq_none_iff {s : TextStream} (hs : s.encoding.Joins) :
    s.lines.2 = none ↔ s.delivery.failure = none ∧
      ∃ cs, s.encoding.decoder.Yields s.delivery.bytes cs := by
  rw [lines_failure]
  constructor
  · intro h
    obtain ⟨hfailure, hy⟩ :=
      (decoded_eq_iff hs).mp (Prod.ext rfl h : s.decoded = (s.decoded.1, none))
    exact ⟨hfailure, _, hy⟩
  · rintro ⟨hfailure, cs, hy⟩
    rw [(decoded_eq_iff hs).mpr ⟨hfailure, hy⟩]

/-- Of a stream that is read to its end the lines of a text are read. -/
theorem exists_yields_of_lines {s : TextStream} (hs : s.encoding.Joins) (h : s.lines.2 = none) :
    ∃ cs, s.encoding.decoder.Yields s.delivery.bytes cs ∧
      s.lines = ((linesOfWhole cs).map String.ofList, none) := by
  obtain ⟨hfailure, cs, hcs⟩ := (lines_failure_eq_none_iff hs).mp h
  exact ⟨cs, hcs, lines_of_decoded ((decoded_eq_iff hs).mpr ⟨hfailure, hcs⟩)⟩

/-- Streams that deliver the same bytes in different pieces are read alike, if they are read to
their end. -/
theorem lines_eq_of_bytes_eq {s s' : TextStream} (hs : s.encoding.Joins)
    (hencoding : s'.encoding = s.encoding) (hfailure : s'.delivery.failure = none)
    (hbytes : s'.delivery.bytes = s.delivery.bytes) (h : s.lines.2 = none) :
    s'.lines = s.lines := by
  obtain ⟨cs, hcs, hlines⟩ := exists_yields_of_lines hs h
  rw [← hencoding, ← hbytes] at hcs
  rw [hlines, lines_of_decoded ((decoded_eq_iff (hencoding ▸ hs)).mpr ⟨hfailure, hcs⟩)]

/-- A stream that fails within the bytes of a text fails for no other reason, and before that the
first of the lines of this text are read. -/
theorem lines_of_failure {s : TextStream} (hs : s.encoding.Joins) {later : List UInt8}
    {cs : List Char} {e : GzipError} (hfailure : s.delivery.failure = some e)
    (hy : s.encoding.decoder.Yields (s.delivery.bytes ++ later) cs) :
    s.lines.2 = some (.reading (.unpacking e)) ∧
      s.lines.1 <+: (linesOfWhole cs).map String.ofList := by
  obtain ⟨front, d, cs', hall, -, rfl⟩ := (Decoder.yields_flatten_append_iff hs.decoder).mp hy
  have hdec : s.decoded = (front, some (.reading (.unpacking e))) := by
    rw [decoded, hall]
    simp only [hfailure]
  have hlines : s.lines =
      ((linesOfBroken front).map String.ofList, some (.reading (.unpacking e))) := by
    simp only [lines, hdec]
  rw [hlines]
  exact ⟨rfl, (linesOfBroken_isPrefix front cs').map _⟩

theorem openFile_eq_ok_iff [Platform] {fs : FileSystem} {path : String} {setting : Value}
    {s : TextStream} :
    openFile fs path setting = .ok s ↔ path.contains '\x00' = false ∧
      ∃ bytes encoding, fs.read path = .ok bytes ∧ Encoding.ofSetting setting = .ok encoding ∧
        s = ⟨encoding, Gzip.deliver bytes⟩ := by
  rw [openFile]
  cases hpath : path.contains '\x00' with
  | true => simp
  | false =>
    cases hread : fs.read path with
    | error e => simp
    | ok bytes =>
      cases hsetting : Encoding.ofSetting setting with
      | error f => simp
      | ok encoding => simp [eq_comm]

end TextStream

/-! ## Texts and compressed files -/

namespace Text

/-- Where the byte `8B` begins no character no text begins as a compressed file does. -/
theorem Codec.Reads.not_isCompressed {codec : Codec} {bytes : List UInt8} {cs : List Char}
    (h : codec.Reads bytes cs []) (hfirst : ∀ rest, codec.step 0x1f rest = .char '\x1f' 0)
    (hsecond : ∀ rest c more, codec.step 0x8b rest ≠ .char c more) :
    Gzip.isCompressed bytes = false := by
  rw [Bool.eq_false_iff, Ne, Gzip.isCompressed_iff]
  rintro ⟨rest, rfl⟩
  cases h with
  | char hs hr =>
    rw [hfirst] at hs
    cases hs
    exact absurd ((reads_cons_iff_of_ne_char (hsecond rest)).mp hr).2 (List.cons_ne_nil _ _).symm

theorem Utf8.not_isCompressed_encode (cs : List Char) :
    Gzip.isCompressed (encode cs) = false :=
  Codec.Reads.not_isCompressed (Codec.reads_utf8_iff.mpr rfl) (fun _ => rfl) fun _ _ _ h => by
    cases h

/-- A text in UTF-8 is not taken for a compressed file if a part of a character follows it. -/
theorem Utf8.not_isCompressed_encode_append {cs : List Char} {c : Char} {part : List UInt8}
    (hpre : part <+: String.utf8EncodeChar c) :
    Gzip.isCompressed (encode cs ++ part) = false := by
  obtain ⟨later, hlater⟩ := hpre
  have hwhole : encode (cs ++ [c]) = encode cs ++ part ++ later := by
    simp [encode, ← hlater]
  rw [Bool.eq_false_iff, Ne, Gzip.isCompressed_iff]
  rintro ⟨rest, hrest⟩
  have hplain := not_isCompressed_encode (cs ++ [c])
  rw [hwhole, hrest] at hplain
  cases hplain

end Text

namespace Encoding

/-- The encodings whose texts are told apart from compressed files by their first two bytes. -/
def distinct : List Encoding := [utf8, ascii, utf8Signed, utf16]

theorem Writes.not_isCompressed {e : Encoding} {cs : List Char} {bytes : List UInt8}
    (h : e.Writes cs bytes) (he : e ∈ distinct) : Gzip.isCompressed bytes = false := by
  cases e with
  | utf8 =>
    rw [h]
    exact Utf8.not_isCompressed_encode cs
  | utf8Signed =>
    have h' : Decoder.withoutMark bytes = Utf8.encode cs := h
    rw [Decoder.withoutMark] at h'
    split at h'
    · rename_i hmark
      obtain ⟨rest, rfl⟩ := List.isPrefixOf_iff_prefix.mp hmark
      rfl
    · rw [h']
      exact Utf8.not_isCompressed_encode cs
  | ascii =>
    have hreads := Codec.inverts_ascii.reads_iff.mpr h
    exact hreads.not_isCompressed (fun _ => rfl) fun _ _ _ hs => by cases hs
  | utf16 =>
    rcases h with ⟨rfl, -⟩ | ⟨order, rfl⟩
    · rfl
    · cases order <;> rfl
  | latin1 | windows1252 | utf16LittleEndian | utf16BigEndian => simp [distinct] at he

end Encoding

/-! ## Files that are not compressed -/

namespace TextStream

/-- A file that is not compressed is read to its end if and only if it is a text in the encoding.
There is only one such text, and its lines are delivered. No text in one of the `distinct`
encodings is taken for a compressed file. -/
theorem lines_of_bytes [Platform] :
    (∀ {fs : FileSystem} {path : String} {setting : Value} {e : Encoding} {bytes : List UInt8},
      path.contains '\x00' = false → fs.read path = .ok bytes →
      Encoding.ofSetting setting = .ok e → Gzip.isCompressed bytes = false →
      (e = .utf8Signed → 3 ≤ bytes.length) →
        ∃ s, openFile fs path setting = .ok s ∧
          (s.lines.2 = none ↔ ∃ cs, e.Writes cs bytes) ∧
          ∀ cs, e.Writes cs bytes →
            (∀ cs', e.Writes cs' bytes → cs' = cs) ∧
            AreLines (translated cs) (s.lines.1.map String.toList)) ∧
    ∀ {e : Encoding} {cs : List Char} {bytes : List UInt8}, e ∈ Encoding.distinct →
      e.Writes cs bytes → Gzip.isCompressed bytes = false := by
  refine ⟨?_, fun he h => h.not_isCompressed he⟩
  intro fs path setting e bytes hpath hread hsetting hplain hsigned
  have hyields : ∀ cs, (Decoder.ofEncoding e).Yields bytes cs ↔ e.Writes cs bytes :=
    fun _ => Encoding.yields_iff_writes hsigned
  have hbytes : (Delivery.ofBytes bytes : Delivery GzipError).bytes = bytes :=
    Delivery.bytes_ofBytes bytes
  refine ⟨⟨e, Delivery.ofBytes bytes⟩, ?_, ?_, ?_⟩
  · refine openFile_eq_ok_iff.mpr ⟨hpath, bytes, e, hread, hsetting, ?_⟩
    rw [Gzip.deliver_of_not_isCompressed hplain]
  · rw [lines_failure_eq_none_iff (s := ⟨e, Delivery.ofBytes bytes⟩) trivial]
    simp only [hbytes, TextEncoding.decoder, hyields, and_iff_right_iff_imp]
    exact fun _ => rfl
  · intro cs h
    refine ⟨fun cs' h' => ((hyields cs').mpr h').unique ((hyields cs).mpr h), ?_⟩
    have hlines : lines ⟨e, Delivery.ofBytes bytes⟩ = ((linesOfWhole cs).map String.ofList, none) :=
      lines_of_writes rfl (by rwa [hbytes]) (by rwa [hbytes])
    rw [hlines]
    simpa [Function.comp_def] using areLines_linesOfWhole cs

/-- A text in UTF-8 with line ends of all three kinds, the last of them a carriage return. -/
def euroBytes : List UInt8 := [0xe2, 0x82, 0xac, 0x20, 0x31, 0x0d, 0x0a, 0x0d, 0x62, 0x0d]

/-- A working directory with a file of these bytes in it. -/
def euroFiles : FileSystem := (FileSystem.ofWorkingDirectory []).put ["euro"] (.file euroBytes)

theorem lines_of_bytes_euro :
    "euro".contains '\x00' = false ∧ euroFiles.read "euro" = .ok euroBytes ∧
      Encoding.ofSetting .null = .ok (.own .utf8) ∧ Encoding.utf8 ∈ Encoding.distinct ∧
      Encoding.Writes "€ 1\r\n\rb\r".toList euroBytes .utf8 ∧
      ∃ s, openFile euroFiles "euro" .null = .ok s ∧ s.lines.2 = none ∧
        AreLines "€ 1\n\nb\n".toList (s.lines.1.map String.toList) := by
  have hpath : "euro".contains '\x00' = false := contains_eq_false (by decide)
  have hread : euroFiles.read "euro" = .ok euroBytes := by rfl
  have hdistinct : Encoding.utf8 ∈ Encoding.distinct := by decide
  have hsetting : Encoding.ofSetting .null = .ok (.own .utf8) := rfl
  have hwrites : euroBytes = Utf8.encode "€ 1\r\n\rb\r".toList := by decide +kernel
  have hplain := lines_of_bytes.2 hdistinct hwrites
  obtain ⟨s, hs, hend, hlines⟩ := lines_of_bytes.1 hpath hread hsetting hplain (by simp)
  exact ⟨hpath, hread, hsetting, hdistinct, hwrites, s, hs, hend.mpr ⟨_, hwrites⟩,
    (hlines _ hwrites).2⟩

end TextStream

end Vicinity
