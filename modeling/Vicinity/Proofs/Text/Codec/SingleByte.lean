import Vicinity.Proofs.Bytes
import Vicinity.Proofs.Text.Codec
import Vicinity.Text.Codec.SingleByte

/-!
# Characters of one byte

How ASCII, Latin-1 and Windows-1252 write characters, and that the codecs invert it. A character
of Windows-1252 that is not one of Latin-1 outside `80` to `9F` is written as its place in the
table of those bytes; the places that stand for no character hold zero, and the character of that
number is written as itself.
-/

namespace Vicinity

namespace Text

namespace Codec

/-! ## Writing -/

/-- The byte of a character in ASCII. -/
def asciiByte? (c : Char) : Option UInt8 := if c.toNat < 0x80 then some c.toNat.toUInt8 else none

/-- The byte of a character in Latin-1. -/
def latin1Byte? (c : Char) : Option UInt8 := if c.toNat < 0x100 then some c.toNat.toUInt8 else none

/-- The byte of a character in Windows-1252. -/
def windows1252Byte? (c : Char) : Option UInt8 :=
  if c.toNat < 0x80 ∨ 0xa0 ≤ c.toNat ∧ c.toNat < 0x100 then some c.toNat.toUInt8
  else (windows1252High.idxOf? c.toNat).map fun i => (0x80 + i).toUInt8

/-- A way of writing with one byte for each character. -/
def writeByte (byte? : Char → Option UInt8) (c : Char) : Option (List UInt8) :=
  (byte? c).map fun b => [b]

/-! ## Reading -/

/-- A codec that looks at one byte alone inverts a way of writing if it gives every byte the
character that is written as this byte. -/
theorem inverts_writeByte {codec : Codec} {byte? : Char → Option UInt8}
    (hread : ∀ {c b}, byte? c = some b → ∀ rest, codec.step b rest = .char c 0)
    (hwritten : ∀ {b rest c more}, codec.step b rest = .char c more → more = 0 ∧ byte? c = some b) :
    codec.Inverts (writeByte byte?) where
  read h := by
    obtain ⟨b, hb, rfl⟩ := Option.map_eq_some_iff.mp h
    exact ⟨b, [], rfl, fun rest => hread hb rest⟩
  written h := by
    obtain ⟨rfl, hb⟩ := hwritten h
    exact ⟨Nat.zero_le _, by rw [writeByte, hb]; rfl⟩

theorem inverts_ascii : ascii.Inverts (writeByte asciiByte?) := by
  refine inverts_writeByte (fun {c b} h rest => ?_) fun {b rest c more} h => ?_
  · obtain ⟨hc, heq⟩ := Option.ite_none_right_eq_some.mp h
    cases heq
    have hb : c.toNat.toUInt8.toNat = c.toNat := toNat_toUInt8 (by omega)
    have hlt : c.toNat.toUInt8 < 0x80 := by
      rw [UInt8.lt_iff_toNat_lt, hb]
      exact hc
    simp only [ascii, if_pos hlt, hb, Char.ofNat_toNat]
  · simp only [ascii] at h
    split at h
    · rename_i hb
      cases h
      have hb' : b.toNat < 0x80 := UInt8.lt_iff_toNat_lt.mp hb
      refine ⟨rfl, ?_⟩
      rw [asciiByte?, toNat_ofNat_toNat, if_pos hb', toUInt8_toNat]
    · cases h

theorem inverts_latin1 : latin1.Inverts (writeByte latin1Byte?) := by
  refine inverts_writeByte (fun {c b} h rest => ?_) fun {b rest c more} h => ?_
  · obtain ⟨hc, heq⟩ := Option.ite_none_right_eq_some.mp h
    cases heq
    simp only [latin1, toNat_toUInt8 hc, Char.ofNat_toNat]
  · cases h
    have := b.toNat_lt
    refine ⟨rfl, ?_⟩
    rw [latin1Byte?, toNat_ofNat_toNat, if_pos (by omega), toUInt8_toNat]

/-- The table has no character twice, and none that is written as itself. -/
theorem windows1252Byte?_of_char {b : UInt8} {c : Char} (h : windows1252Char? b = some c) :
    windows1252Byte? c = some b := by
  have hall : (List.range 0x100).all fun n => (windows1252Char? n.toUInt8).all fun c =>
      windows1252Byte? c = some n.toUInt8 := by decide +kernel
  have hb := List.all_eq_true.mp hall b.toNat (List.mem_range.mpr b.toNat_lt)
  rw [toUInt8_toNat, h] at hb
  exact of_decide_eq_true hb

theorem windows1252Char?_of_byte {b : UInt8} {c : Char} (h : windows1252Byte? c = some b) :
    windows1252Char? b = some c := by
  rw [windows1252Byte?] at h
  split at h
  · rename_i hc
    cases h
    have hb : c.toNat.toUInt8.toNat = c.toNat := toNat_toUInt8 (by omega)
    have hout : c.toNat.toUInt8 < 0x80 ∨ 0xa0 ≤ c.toNat.toUInt8 := by
      rw [UInt8.lt_iff_toNat_lt, UInt8.le_iff_toNat_le, hb]
      simp only [UInt8.reduceToNat]
      omega
    rw [windows1252Char?, if_pos hout, hb, Char.ofNat_toNat]
  · rename_i hc
    obtain ⟨i, hidx, rfl⟩ := Option.map_eq_some_iff.mp h
    obtain ⟨hi, hget, -⟩ := List.idxOf?_eq_some_iff.mp hidx
    have hi' : i < 32 := hi
    have hb : (0x80 + i).toUInt8.toNat = 0x80 + i := toNat_toUInt8 (by omega)
    have hin : ¬ ((0x80 + i).toUInt8 < 0x80 ∨ 0xa0 ≤ (0x80 + i).toUInt8) := by
      rw [UInt8.lt_iff_toNat_lt, UInt8.le_iff_toNat_le, hb]
      simp only [UInt8.reduceToNat]
      omega
    obtain ⟨n, hn⟩ : ∃ n, c.toNat = n + 1 := Nat.exists_eq_succ_of_ne_zero (by omega)
    rw [windows1252Char?, if_neg hin, hb, Nat.add_sub_cancel_left, List.getElem?_eq_getElem hi,
      hget, hn]
    show some (Char.ofNat (n + 1)) = some c
    rw [← hn, Char.ofNat_toNat]

theorem inverts_windows1252 : windows1252.Inverts (writeByte windows1252Byte?) := by
  refine inverts_writeByte (fun {c b} h rest => ?_) fun {b rest c more} h => ?_
  · simp only [windows1252, windows1252Char?_of_byte h]
  · simp only [windows1252] at h
    split at h
    · rename_i hc
      cases h
      exact ⟨rfl, windows1252Byte?_of_char hc⟩
    · cases h

/-! ## Steadiness -/

theorem isSteady_ascii : ascii.IsSteady := inverts_ascii.isSteady fun _ _ => rfl

theorem isSteady_latin1 : latin1.IsSteady := inverts_latin1.isSteady fun _ _ => rfl

theorem isSteady_windows1252 : windows1252.IsSteady := inverts_windows1252.isSteady fun _ _ => rfl

end Codec

end Text

end Vicinity
