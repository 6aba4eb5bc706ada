import Vicinity.Proofs.Text.Decoder

/-!
# The texts of an encoding

`Encoding.Writes` says which bytes are a text in an encoding, by the way characters are written
and without a decoder : whole characters one after another, after a mark in UTF-16, and in
signed UTF-8 after a mark that may be left out. A decoder yields a text for bytes if and only if
they are that text in its encoding (`Encoding.yields_iff_writes`), and no bytes are two texts
(`Encoding.Writes.unique`).

The one exception are one or two bytes that a mark of signed UTF-8 begins with, which yield the
empty text; `Encoding.Decodes` allows for them (`Encoding.yields_iff_decodes`).
-/

namespace Vicinity

open Text

/-- The mark of UTF-16, the character U+FEFF. -/
def Text.Utf16.mark (order : ByteOrder) : List UInt8 := unitBytes order 0xfeff

/-- The bytes are the text in the encoding. -/
def Encoding.Writes (cs : List Char) (bytes : List UInt8) : Encoding → Prop
  | utf8 => bytes = Utf8.encode cs
  | utf8Signed => Decoder.withoutMark bytes = Utf8.encode cs
  | ascii => Codec.writeAll (Codec.writeByte Codec.asciiByte?) cs = some bytes
  | latin1 => Codec.writeAll (Codec.writeByte Codec.latin1Byte?) cs = some bytes
  | windows1252 => Codec.writeAll (Codec.writeByte Codec.windows1252Byte?) cs = some bytes
  | utf16 => bytes = [] ∧ cs = [] ∨
      ∃ order, bytes = Utf16.mark order ++ Utf16.encode order cs
  | utf16LittleEndian => bytes = Utf16.encode .littleEndian cs
  | utf16BigEndian => bytes = Utf16.encode .bigEndian cs

namespace Text

/-! ## Marks -/

theorem Utf16.orderOfMark?_eq_some_iff {bytes : List UInt8} {order : ByteOrder} :
    orderOfMark? bytes = some order ↔ ∃ rest, bytes = mark order ++ rest := by
  constructor
  · intro h
    unfold orderOfMark? at h
    split at h
    · rename_i rest
      cases h
      exact ⟨rest, rfl⟩
    · rename_i rest
      cases h
      exact ⟨rest, rfl⟩
    · cases h
  · rintro ⟨rest, rfl⟩
    cases order <;> rfl

/-- The bytes after a mark are a text if and only if the bytes are the mark and that text. -/
theorem Utf16.exists_order_iff {bytes : List UInt8} {cs : List Char} :
    (∃ order, orderOfMark? bytes = some order ∧
      (Codec.utf16 order).Reads (bytes.drop 2) cs []) ↔
      ∃ order, bytes = mark order ++ encode order cs := by
  refine exists_congr fun order => ?_
  rw [orderOfMark?_eq_some_iff]
  have hdrop : ∀ rest, (mark order ++ rest).drop 2 = rest := by
    intro rest
    cases order <;> rfl
  constructor
  · rintro ⟨⟨rest, rfl⟩, hr⟩
    rw [hdrop, Codec.reads_utf16_iff] at hr
    rw [hr]
  · rintro rfl
    exact ⟨⟨_, rfl⟩, by rw [hdrop, Codec.reads_utf16_iff]⟩

end Text

/-! ## Encodings -/

/-- A part of the mark of signed UTF-8 begins a character, and ends within it. -/
theorem Text.Decoder.eq_nil_of_writes_of_isPartOfMark {bytes : List UInt8} {cs : List Char}
    (hpart : isPartOfMark bytes) (h : Encoding.utf8Signed.Writes cs bytes) : cs = [] := by
  have hreads : Codec.utf8.Reads (withoutMark bytes) cs [] := Codec.reads_utf8_iff.mpr h
  obtain rfl | rfl | rfl : bytes = [] ∨ bytes = [0xef] ∨ bytes = [0xef, 0xbb] := by
    obtain ⟨hlen, hpre⟩ := isPartOfMark_iff.mp hpart
    have hbytes := List.prefix_iff_eq_take.mp hpre
    obtain hn | hn | hn : bytes.length = 0 ∨ bytes.length = 1 ∨ bytes.length = 2 := by omega
    all_goals
      rw [hn] at hbytes
      simp [hbytes, Utf8.mark]
  · exact (Codec.reads_nil_iff.mp hreads).1
  · exact ((Codec.reads_cons_iff_of_ne_char fun _ _ hs => by cases hs).mp hreads).1
  · exact ((Codec.reads_cons_iff_of_ne_char fun _ _ hs => by cases hs).mp hreads).1

namespace Encoding

/-- What is yielded for all bytes are the texts they are, unless they are too few to tell if they
begin with a mark. -/
theorem yields_iff_writes_of_not_isPartOfMark {e : Encoding} {bytes : List UInt8} {cs : List Char}
    (hsigned : e = utf8Signed → ¬ Decoder.isPartOfMark bytes) :
    (Decoder.ofEncoding e).Yields bytes cs ↔ e.Writes cs bytes := by
  cases e with
  | utf8 => exact Decoder.yields_reading_iff.trans Codec.reads_utf8_iff
  | utf8Signed =>
    have hpart : ¬ Decoder.isPartOfMark ([] ++ bytes) := hsigned rfl
    exact (Decoder.yields_signed_iff hpart).trans Codec.reads_utf8_iff
  | ascii => exact Decoder.yields_reading_iff.trans Codec.inverts_ascii.reads_iff
  | latin1 => exact Decoder.yields_reading_iff.trans Codec.inverts_latin1.reads_iff
  | windows1252 => exact Decoder.yields_reading_iff.trans Codec.inverts_windows1252.reads_iff
  | utf16 => exact Decoder.yields_marked_iff.trans (or_congr_right Utf16.exists_order_iff)
  | utf16LittleEndian => exact Decoder.yields_reading_iff.trans Codec.reads_utf16_iff
  | utf16BigEndian => exact Decoder.yields_reading_iff.trans Codec.reads_utf16_iff

theorem yields_iff_writes {e : Encoding} {bytes : List UInt8} {cs : List Char}
    (hsigned : e = utf8Signed → 3 ≤ bytes.length) :
    (Decoder.ofEncoding e).Yields bytes cs ↔ e.Writes cs bytes :=
  yields_iff_writes_of_not_isPartOfMark fun he => Decoder.not_isPartOfMark_of_le (hsigned he)

/-- The bytes are decoded to the text : they are this text in the encoding, or no more than a part
of the mark of signed UTF-8, which is no text but is not missed either. -/
def Decodes (e : Encoding) (bytes : List UInt8) (cs : List Char) : Prop :=
  e.Writes cs bytes ∨ e = utf8Signed ∧ Decoder.isPartOfMark bytes ∧ cs = []

theorem yields_iff_decodes {e : Encoding} {bytes : List UInt8} {cs : List Char} :
    (Decoder.ofEncoding e).Yields bytes cs ↔ e.Decodes bytes cs := by
  by_cases hpart : e = utf8Signed ∧ Decoder.isPartOfMark bytes
  · obtain ⟨rfl, hpart⟩ := hpart
    have hyields : (Decoder.ofEncoding utf8Signed).Yields bytes cs ↔ cs = [] := by
      simp [Decoder.Yields, Decoder.ofEncoding, Decoder.feed,
        Decoder.readSigned_of_isPartOfMark hpart, eq_comm]
    have hwrites : utf8Signed.Writes cs bytes → cs = [] :=
      Decoder.eq_nil_of_writes_of_isPartOfMark hpart
    rw [hyields, Decodes, and_iff_right rfl, and_iff_right hpart]
    exact ⟨Or.inr, fun h => h.elim hwrites id⟩
  · rw [yields_iff_writes_of_not_isPartOfMark fun he hp => hpart ⟨he, hp⟩, Decodes, ← and_assoc]
    simp [hpart]

end Encoding

end Vicinity
