import Mathlib.Tactic.SplitIfs
import Vicinity.Proofs.Bytes
import Vicinity.Proofs.Text.Codec
import Vicinity.Text.Codec.Utf16

/-!
# UTF-16

The codec of a byte order reads a character exactly where its one or two units stand. Units that
are surrogates without their partner begin no character.
-/

namespace Vicinity

namespace Text

namespace Utf16

/-! ## Units -/

theorem unit_lt (order : ByteOrder) (b b' : UInt8) : unit order b b' < 0x10000 := by
  have := b.toNat_lt
  have := b'.toNat_lt
  cases order <;> simp only [unit] <;> omega

theorem unitBytes_unit (order : ByteOrder) (b b' : UInt8) :
    unitBytes order (unit order b b') = [b, b'] := by
  have := b.toNat_lt
  have := b'.toNat_lt
  cases order with
  | littleEndian =>
    simp only [unitBytes, unit]
    rw [toUInt8_eq (b := b) (by omega), toUInt8_eq (b := b') (by omega)]
  | bigEndian =>
    simp only [unitBytes, unit]
    rw [toUInt8_eq (b := b) (by omega), toUInt8_eq (b := b') (by omega)]

theorem exists_unitBytes (order : ByteOrder) {n : Nat} (h : n < 0x10000) :
    ∃ b b', unitBytes order n = [b, b'] ∧ unit order b b' = n := by
  have hhi := toNat_toUInt8 (n := n / 256) (by omega)
  have hlo := toNat_toUInt8 (n := n % 256) (by omega)
  cases order with
  | littleEndian => exact ⟨_, _, rfl, by simp only [unit, hhi, hlo]; omega⟩
  | bigEndian => exact ⟨_, _, rfl, by simp only [unit, hhi, hlo]; omega⟩

theorem length_unitBytes (order : ByteOrder) (n : Nat) : (unitBytes order n).length = 2 := by
  cases order <;> rfl

theorem two_le_length_encodeChar (order : ByteOrder) (c : Char) :
    2 ≤ (encodeChar order c).length := by
  rw [encodeChar]
  split <;> simp [length_unitBytes]

/-- The character of a pair of surrogates is written as this pair. -/
theorem encodeChar_pairChar (order : ByteOrder) {hi lo : Nat} (hhi : 0xd800 ≤ hi)
    (hhi' : hi < 0xdc00) (hlo : 0xdc00 ≤ lo) (hlo' : lo < 0xe000) :
    encodeChar order (pairChar hi lo) = unitBytes order hi ++ unitBytes order lo := by
  have hc : (pairChar hi lo).toNat = 0x10000 + (hi - 0xd800) * 0x400 + (lo - 0xdc00) :=
    toNat_ofNat_of_isValidChar (Or.inr (by omega))
  have hn : (pairChar hi lo).toNat - 0x10000 = (hi - 0xd800) * 0x400 + (lo - 0xdc00) := by omega
  have h₁ : 0xd800 + ((hi - 0xd800) * 0x400 + (lo - 0xdc00)) / 0x400 = hi := by omega
  have h₂ : 0xdc00 + ((hi - 0xd800) * 0x400 + (lo - 0xdc00)) % 0x400 = lo := by omega
  rw [encodeChar, if_neg (by omega)]
  simp only [hn, h₁, h₂]

/-- A character above `FFFF` is the one of its pair of surrogates. -/
theorem pairChar_of_le {c : Char} (h : 0x10000 ≤ c.toNat) :
    pairChar (0xd800 + (c.toNat - 0x10000) / 0x400) (0xdc00 + (c.toNat - 0x10000) % 0x400) = c := by
  have hn : 0x10000 + (0xd800 + (c.toNat - 0x10000) / 0x400 - 0xd800) * 0x400 +
      (0xdc00 + (c.toNat - 0x10000) % 0x400 - 0xdc00) = c.toNat := by omega
  rw [pairChar, hn, Char.ofNat_toNat]

/-! ## Reading and writing -/

/-- Where a character is read, its units stand. -/
theorem encodeChar_of_step {order : ByteOrder} {b : UInt8} {rest : List UInt8} {c : Char}
    {more : Nat} (h : step order b rest = .char c more) :
    more ≤ rest.length ∧ encodeChar order c = b :: rest.take more := by
  match rest with
  | [] => cases h
  | b₁ :: rest =>
    have hlt := unit_lt order b b₁
    simp only [step] at h
    split at h
    · cases h
      have hc : (Char.ofNat (unit order b b₁)).toNat = unit order b b₁ :=
        toNat_ofNat_of_isValidChar (by simp only [Nat.isValidChar]; omega)
      rw [encodeChar, hc, if_pos hlt, unitBytes_unit]
      exact ⟨Nat.succ_le_succ (Nat.zero_le _), rfl⟩
    split at h
    · cases h
    split at h
    · rename_i b₂ b₃ rest
      split at h
      · rename_i hpair
        simp only [CodecStep.char.injEq] at h
        obtain ⟨rfl, rfl⟩ := h
        obtain ⟨hlo, hlo'⟩ := hpair
        rw [encodeChar_pairChar order (by omega) (by omega) hlo hlo', unitBytes_unit,
          unitBytes_unit]
        exact ⟨by simp, rfl⟩
      · cases h
    · cases h

theorem one_le_of_step {order : ByteOrder} {b : UInt8} {rest : List UInt8} {c : Char}
    {more : Nat} (h : step order b rest = .char c more) : 1 ≤ more := by
  obtain ⟨hle, hbytes⟩ := encodeChar_of_step h
  have hlen : 2 ≤ (encodeChar order c).length := two_le_length_encodeChar order c
  rw [hbytes, List.length_cons, List.length_take, Nat.min_eq_left hle] at hlen
  omega

/-- Where the units of a character stand, the character is read. -/
theorem step_encodeChar (order : ByteOrder) (c : Char) : ∃ b tail, encodeChar order c = b :: tail ∧
    ∀ rest, step order b (tail ++ rest) = .char c tail.length := by
  have hv : c.toNat.isValidChar := c.valid
  rw [Nat.isValidChar] at hv
  rcases Nat.lt_or_ge c.toNat 0x10000 with hlt | hge
  · obtain ⟨b, b₁, hbytes, hunit⟩ := exists_unitBytes order hlt
    refine ⟨b, [b₁], by rw [encodeChar, if_pos hlt, hbytes], fun rest => ?_⟩
    simp only [List.cons_append, List.nil_append, step, hunit]
    rw [if_pos (by omega), Char.ofNat_toNat]
    rfl
  · obtain ⟨b, b₁, hbytes, hunit⟩ :=
      exists_unitBytes order (n := 0xd800 + (c.toNat - 0x10000) / 0x400) (by omega)
    obtain ⟨b₂, b₃, hbytes', hunit'⟩ :=
      exists_unitBytes order (n := 0xdc00 + (c.toNat - 0x10000) % 0x400) (by omega)
    refine ⟨b, [b₁, b₂, b₃], ?_, fun rest => ?_⟩
    · rw [encodeChar, if_neg (by omega)]
      simp only [hbytes, hbytes']
      rfl
    · simp only [List.cons_append, List.nil_append, step, hunit, hunit']
      rw [if_neg (by omega), if_neg (by omega), if_pos (by omega), pairChar_of_le hge]
      rfl

/-- More bytes change the verdict only where the bytes end within a character. -/
theorem step_append {order : ByteOrder} {b : UInt8} {rest : List UInt8} (later : List UInt8)
    (h : ∀ reason, step order b rest ≠ .incomplete reason) :
    step order b (rest ++ later) = step order b rest := by
  match rest with
  | [] => exact absurd rfl (h _)
  | [b₁] =>
    simp only [List.cons_append, List.nil_append, step] at h ⊢
    split_ifs at h ⊢
    · rfl
    · rfl
    · exact absurd rfl (h _)
  | [b₁, b₂] =>
    simp only [List.cons_append, List.nil_append, step] at h ⊢
    split_ifs at h ⊢
    · rfl
    · rfl
    · exact absurd rfl (h _)
  | b₁ :: b₂ :: b₃ :: rest => rfl

end Utf16

namespace Codec

theorem inverts_utf16 (order : ByteOrder) :
    (utf16 order).Inverts fun c => some (Utf16.encodeChar order c) where
  read h := by
    cases h
    exact Utf16.step_encodeChar order _
  written h := by
    obtain ⟨hle, hform⟩ := Utf16.encodeChar_of_step h
    exact ⟨hle, congrArg some hform⟩

theorem isSteady_utf16 (order : ByteOrder) : (utf16 order).IsSteady :=
  (inverts_utf16 order).isSteady Utf16.step_append

theorem reads_utf16_iff {order : ByteOrder} {bytes : List UInt8} {cs : List Char} :
    (utf16 order).Reads bytes cs [] ↔ bytes = Utf16.encode order cs := by
  rw [(inverts_utf16 order).reads_iff, writeAll_some, Option.some.injEq, eq_comm]
  rfl

end Codec

end Text

end Vicinity
