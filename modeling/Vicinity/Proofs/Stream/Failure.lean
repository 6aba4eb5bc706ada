import Vicinity.Proofs.Stream
import Vicinity.Proofs.Text.Mark

/-!
# Streams that fail

A stream fails because what it delivers fails, or because its bytes are not decoded
(`TextStream.failure_cases`). The mark of UTF-16 is missing only where the content begins without
one, and missed where it begins with a character (`TextStream.lines_failure_eq_missingMark_iff`).
Failures of the path and of the name of the encoding are met before there is a stream
(`TextStream.openFile_eq_error_iff`).

Some failures show only at the end : if what is delivered before is all of a text, then so is
what is decoded before (`TextStream.decoded_of_yields`), and this is also true of a text that is
followed by a part of a character (`TextStream.decoded_of_reads`, `TextStream.decoded_of_cut`).
-/

namespace Vicinity

open Text

namespace TextStream

/-! ## Opening -/

/-- A stream is not opened because of its path, its file or its encoding, in this order. -/
theorem openFile_eq_error_iff [Platform] {fs : FileSystem} {path : String} {setting : Value}
    {f : StreamFailure} :
    openFile fs path setting = .error f ↔
      path.contains '\x00' = true ∧ f = .pathContainsNul ∨
      path.contains '\x00' = false ∧
        ((∃ e, fs.read path = .error e ∧ f = .reading (.opening e)) ∨
          ∃ bytes g, fs.read path = .ok bytes ∧ Encoding.ofSetting setting = .error g ∧
            f = .encoding g) := by
  rw [openFile]
  cases hpath : path.contains '\x00' with
  | true => simp [eq_comm]
  | false =>
    cases hread : fs.read path with
    | error e => simp [eq_comm]
    | ok bytes =>
      cases hsetting : Encoding.ofSetting setting with
      | error g => simp [eq_comm]
      | ok encoding => simp

/-! ## Why streams fail -/

theorem eq_utf16_of_decoder {e : TextEncoding} {kept : List UInt8}
    (h : e.decoder = .awaitingMark kept) : e = .own .utf16 ∧ kept = [] := by
  cases e with
  | own e =>
    cases e <;> cases h
    exact ⟨rfl, rfl⟩
  | foreign d => cases h

/-- Only a decoder that is not the library's own refuses bytes. -/
theorem eq_foreign_of_feedAll {e : TextEncoding} {pieces : List (List UInt8)} {cs : List Char}
    {wording : String} (h : e.decoder.feedAll pieces = (cs, .error (.refused wording))) :
    ∃ d, e = .foreign d := by
  cases e with
  | own e => exact absurd h (Decoder.isSteady_ofEncoding e).feedAll_ne_refused
  | foreign d => exact ⟨d, rfl⟩

theorem eq_foreign_of_feed {e : TextEncoding} {pieces : List (List UInt8)} {cs : List Char}
    {d : Decoder} {wording : String} (hall : e.decoder.feedAll pieces = (cs, .ok d))
    (h : d.feed true [] = .error (.refused wording)) : ∃ d, e = .foreign d := by
  cases e with
  | own e =>
    have hsteady := Decoder.isSteady_of_feedAll (Decoder.isSteady_ofEncoding e) hall
    exact absurd h hsteady.feed_ne_refused
  | foreign d => exact ⟨d, rfl⟩

variable {s : TextStream}

/-- The content has no mark of UTF-16 at its beginning though there are two bytes. -/
def LacksMark (s : TextStream) : Prop :=
  s.encoding = .own .utf16 ∧ 2 ≤ s.delivery.bytes.length ∧
    Utf16.orderOfMark? s.delivery.bytes = none

theorem lacksMark_of_awaitingMark {kept : List UInt8}
    (hd : s.encoding.decoder = .awaitingMark kept)
    (hlen : 2 ≤ (kept ++ s.delivery.bytes).length)
    (horder : Utf16.orderOfMark? (kept ++ s.delivery.bytes) = none) : s.LacksMark := by
  obtain ⟨hencoding, rfl⟩ := eq_utf16_of_decoder hd
  exact ⟨hencoding, hlen, horder⟩

/-- Decoding misses a mark, in one of the pieces or at their end, only where there is none. -/
theorem lacksMark_of_feedAll {cs : List Char}
    (h : s.encoding.decoder.feedAll s.delivery.pieces = (cs, .error .missingMark)) :
    s.LacksMark := by
  obtain ⟨kept, hd, hlen, horder⟩ := Decoder.orderOfMark?_of_feedAll h
  exact lacksMark_of_awaitingMark hd hlen horder

theorem lacksMark_of_feed {cs : List Char} {d : Decoder}
    (hall : s.encoding.decoder.feedAll s.delivery.pieces = (cs, .ok d))
    (h : d.feed true [] = .error .missingMark) : s.LacksMark := by
  obtain ⟨kept, rfl, hlen, horder⟩ := Decoder.orderOfMark?_of_feed h
  obtain ⟨before, hd, rfl⟩ := Decoder.eq_awaitingMark_of_feedAll hall
  rw [List.append_nil] at hlen horder
  exact lacksMark_of_awaitingMark hd hlen horder

theorem failure_of_decodeFault {g : DecodeFault} (h : g = .missingMark → s.LacksMark)
    (hforeign : ∀ wording, g = .refused wording → ∃ d, s.encoding = .foreign d) :
    (∃ e, StreamFailure.ofDecodeFault g = .reading (.decoding e)) ∨
      StreamFailure.ofDecodeFault g = .missingMark ∧ s.LacksMark ∨
        ∃ wording d, StreamFailure.ofDecodeFault g = .refused wording ∧
          s.encoding = .foreign d := by
  cases g with
  | undecodable e => exact Or.inl ⟨e, rfl⟩
  | missingMark => exact Or.inr (Or.inl ⟨rfl, h rfl⟩)
  | refused wording =>
    obtain ⟨d, hd⟩ := hforeign wording rfl
    exact Or.inr (Or.inr ⟨wording, d, rfl, hd⟩)

/-- A stream fails because its delivery does, because of bytes that are not decoded, because the
mark that must tell the byte order is not there, or because a decoder that is not the library's own
refuses the bytes. -/
theorem failure_cases {f : StreamFailure} (h : s.lines.2 = some f) :
    (∃ e, f = .reading (.unpacking e) ∧ s.delivery.failure = some e) ∨
    (∃ e, f = .reading (.decoding e)) ∨ f = .missingMark ∧ s.LacksMark ∨
      ∃ wording d, f = .refused wording ∧ s.encoding = .foreign d := by
  rw [lines_failure, decoded] at h
  split at h
  · rename_i cs g hall
    obtain rfl := Option.some.inj h
    exact Or.inr (failure_of_decodeFault (by rintro rfl; exact lacksMark_of_feedAll hall)
      (by rintro wording rfl; exact eq_foreign_of_feedAll hall))
  · rename_i cs d hall
    split at h
    · rename_i e hfailure
      exact Or.inl ⟨e, (Option.some.inj h).symm, hfailure⟩
    · split at h
      · rename_i g hfeed
        obtain rfl := Option.some.inj h
        exact Or.inr (failure_of_decodeFault (by rintro rfl; exact lacksMark_of_feed hall hfeed)
          (by rintro wording rfl; exact eq_foreign_of_feed hall hfeed))
      · cases h

/-- A stream misses its mark if and only if it is in UTF-16 and some of its first pieces hold a
character without one, and no fault. -/
theorem lines_failure_eq_missingMark_iff :
    s.lines.2 = some .missingMark ↔ s.encoding = .own .utf16 ∧
      ∃ front, front <+: s.delivery.pieces ∧ Decoder.IsUnmarked front.flatten := by
  have hpieces : s.encoding = .own .utf16 →
      ((s.encoding.decoder.feedAll s.delivery.pieces).2 = .error .missingMark ↔
        ∃ front, front <+: s.delivery.pieces ∧ Decoder.IsUnmarked front.flatten) := by
    intro hencoding
    rw [hencoding]
    exact Decoder.feedAll_eq_missingMark_iff Decoder.awaitMark_nil
  rw [lines_failure, decoded]
  constructor
  · intro h
    split at h
    · rename_i cs g hall
      obtain rfl : g = .missingMark := by cases g <;> first | rfl | cases h
      obtain ⟨hencoding, -⟩ := lacksMark_of_feedAll hall
      exact ⟨hencoding, (hpieces hencoding).mp (by rw [hall])⟩
    · rename_i cs d hall
      split at h
      · cases h
      · split at h
        · rename_i g hfeed
          obtain rfl : g = .missingMark := by cases g <;> first | rfl | cases h
          obtain ⟨kept, rfl, -⟩ := Decoder.orderOfMark?_of_feed hfeed
          have hawait : Decoder.AwaitMark kept := by
            refine Decoder.awaitMark_of_feedAll (fun kept' hd => ?_) hall
            obtain ⟨-, rfl⟩ := eq_utf16_of_decoder hd
            exact Decoder.awaitMark_nil
          rw [Decoder.feed, List.append_nil] at hfeed
          exact absurd hfeed hawait.readMarked_ne_missingMark
        · cases h
  · rintro ⟨hencoding, hfront⟩
    have hall := (hpieces hencoding).mpr hfront
    rcases hd : s.encoding.decoder.feedAll s.delivery.pieces with ⟨cs, end_⟩
    rw [hd] at hall
    obtain rfl : end_ = .error .missingMark := hall
    rfl

/-! ## Failures at the end -/

theorem lines_of_decoded_failure {cs : List Char} {f : StreamFailure}
    (h : s.decoded = (cs, some f)) :
    s.lines = ((linesOfBroken cs).map String.ofList, some f) := by
  simp only [lines, h]

/-- If all bytes that are delivered before a failure are a text, then this text is decoded. -/
theorem decoded_of_yields {e : Encoding} (hencoding : s.encoding = e) {cs : List Char}
    {g : GzipError} (hfailure : s.delivery.failure = some g)
    (h : (Decoder.ofEncoding e).Yields s.delivery.bytes cs) :
    s.decoded = (cs, some (.reading (.unpacking g))) := by
  obtain ⟨d, hall⟩ := Decoder.feedAll_of_yields h
  simp only [decoded, hencoding, TextEncoding.decoder, hall, hfailure]

/-- If the bytes end within a character, the text before is decoded. -/
theorem decoded_of_reads {codec : Codec} (hc : codec.IsSteady) {cs : List Char} {b : UInt8}
    {rest : List UInt8} {reason : DecodeReason}
    (hencoding : s.encoding.decoder = .reading codec [])
    (hfailure : s.delivery.failure = none) (h : codec.Reads s.delivery.bytes cs (b :: rest))
    (hs : codec.step b rest = .incomplete reason) :
    ∃ e, s.decoded = (cs, some (.reading (.decoding e))) := by
  have hall := Decoder.feedAll_of_reads hc (.inl rfl) h (Or.inr ⟨rfl, b, rest, reason, rfl, hs⟩)
  have hfeed : (Decoder.reading codec (b :: rest)).feed true [] =
      .error (.undecodable ⟨codec.name, 0, 1 + rest.length, b, reason⟩) := by
    simp [Decoder.feed, Decoder.read, Codec.decode, Codec.decodeFrom, hs]
  exact ⟨_, by simp only [decoded, hencoding, hall, hfailure, hfeed]; rfl⟩

/-- If the bytes are a text in UTF-8 and a part of one more character, the text is decoded. -/
theorem decoded_of_cut [Platform] {cs : List Char} {c : Char} {part : List UInt8}
    (hencoding : s.encoding = Encoding.utf8)
    (hdelivery : s.delivery = Delivery.ofBytes (Utf8.encode cs ++ part))
    (hpre : part <+: String.utf8EncodeChar c) (hne : part ≠ [])
    (hcut : part ≠ String.utf8EncodeChar c) :
    ∃ e, s.decoded = (cs, some (.reading (.decoding e))) := by
  have hc := Codec.isSteady_utf8
  have hbytes : s.delivery.bytes = Utf8.encode cs ++ part := by
    rw [hdelivery, Delivery.bytes_ofBytes]
  have hfailure : s.delivery.failure = none := by rw [hdelivery]; rfl
  have hdecoder : s.encoding.decoder = .reading .utf8 [] := by rw [hencoding]; rfl
  have hreads : Codec.utf8.Reads (Utf8.encode cs ++ part) cs ([] ++ part) :=
    (Codec.reads_utf8_iff.mpr rfl).append hc part
  obtain ⟨b, tail, hchar, hstep⟩ := Utf8.step_encodeChar c
  obtain ⟨b', rest, rfl⟩ := List.exists_cons_of_ne_nil hne
  rw [hchar] at hpre hcut
  obtain ⟨rfl, hrest⟩ := List.cons_prefix_cons.mp hpre
  have hwhole : Codec.utf8.step b' tail = .char c tail.length := by
    have := hstep []
    rwa [List.append_nil] at this
  obtain ⟨reason, hs⟩ := hc.exists_incomplete hwhole hrest fun heq => hcut (by rw [heq])
  exact decoded_of_reads hc hdecoder hfailure (hbytes ▸ hreads) hs

end TextStream

end Vicinity
