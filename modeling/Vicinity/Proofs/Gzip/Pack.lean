import Vicinity.Proofs.Gzip.Format

/-!
# Packed files keep to the format

`Gzip.pack` writes one member, with the bytes in stored blocks (`Gzip.isMember_pack`), so that
the file delivers these bytes (`Gzip.deliver_pack`). A stored block takes whole bytes, the number
and its complement included, so that each block begins where a byte does.
-/

namespace Vicinity

namespace Deflate

/-! ## Numbers in bytes -/

theorem numberBits_add (m n value : Nat) :
    numberBits (m + n) value = numberBits m value ++ numberBits n (value / 2 ^ m) := by
  simp only [numberBits, List.range_add, List.map_append, List.map_map]
  congr 1
  refine List.map_congr_left fun i _ => ?_
  rw [Function.comp_apply, Nat.testBit_div_two_pow, Nat.add_comm]

theorem bitsOfByte_mod (value : Nat) :
    bitsOfByte (value % 256).toUInt8 = numberBits 8 value := by
  rw [bitsOfByte, toNat_toUInt8 (Nat.mod_lt _ (by decide)), numberBits]
  refine List.map_congr_left fun i hi => ?_
  have hlt : i < 8 := List.mem_range.mp hi
  rw [show 256 = 2 ^ 8 from rfl, Nat.testBit_mod_two_pow]
  simp [hlt]

/-- A number in bytes has the bits of the number. -/
theorem bitsOfBytes_bytesOfNumber (n value : Nat) :
    bitsOfBytes (Gzip.bytesOfNumber n value) = numberBits (8 * n) value := by
  induction n generalizing value with
  | zero => rfl
  | succ n ih =>
    rw [Gzip.bytesOfNumber, bitsOfBytes, List.flatMap_cons, ← bitsOfBytes, ih, bitsOfByte_mod,
      Nat.mul_succ, Nat.add_comm (8 * n), numberBits_add]
    rfl

end Deflate

namespace Gzip

open Deflate

/-! ## Stored blocks -/

/-- The bits of a stored block after the three of its head. -/
def storedBits (bytes : List UInt8) : List Bool :=
  List.replicate 5 false ++ numberBits 16 bytes.length ++ numberBits 16 (0xffff - bytes.length) ++
    bitsOfBytes bytes

theorem bitsOfBytes_storedBlock (final : Bool) (bytes : List UInt8) :
    bitsOfBytes (storedBlock final bytes) = final :: numberBits 2 0 ++ storedBits bytes := by
  have hhead : bitsOfByte (if final then 1 else 0) =
      final :: numberBits 2 0 ++ List.replicate 5 false := by
    cases final <;> decide
  have hcons : ∀ (b : UInt8) (rest : List UInt8),
      bitsOfBytes (b :: rest) = bitsOfByte b ++ bitsOfBytes rest := fun _ _ => List.flatMap_cons
  simp only [storedBlock, hcons, bitsOfBytes_append, bitsOfBytes_bytesOfNumber, hhead, storedBits,
    List.append_assoc, List.cons_append]

/-- A stored block that begins with a byte ends with one. -/
theorem length_storedBits (bytes : List UInt8) : (storedBits bytes).length % 8 = 5 := by
  simp only [storedBits, List.length_append, List.length_replicate, length_numberBits,
    length_bitsOfBytes]
  omega

theorem body_storedBits {position : Nat} {bytes : List UInt8} (hposition : position % 8 = 0)
    (hlen : bytes.length < 0x10000) (out : List UInt8) :
    Body (position + 3) out 0 (storedBits bytes) (out ++ bytes) :=
  .stored (List.replicate 5 false) bytes (by rw [List.length_replicate]; omega) (by decide) hlen

/-- Stored blocks are blocks of their bytes. -/
theorem blocks_storedBlocks {blocks : List (List UInt8)}
    (h : ∀ block ∈ blocks, block.length < 0x10000) {position : Nat} (hposition : position % 8 = 0)
    (out : List UInt8) :
    Blocks position out (bitsOfBytes (storedBlocks blocks)) (out ++ blocks.flatten) := by
  fun_induction storedBlocks blocks generalizing position out with
  | case1 =>
    rw [bitsOfBytes_storedBlock]
    exact .last (body_storedBits hposition (by decide) out)
  | case2 last =>
    rw [bitsOfBytes_storedBlock, List.flatten_singleton]
    exact .last (body_storedBits hposition (h last List.mem_cons_self) out)
  | case3 block rest hne ih =>
    obtain ⟨hblock, hrest⟩ := List.forall_mem_cons.mp h
    have hnext : (position + 3 + (storedBits block).length) % 8 = 0 := by
      have := length_storedBits block
      omega
    rw [bitsOfBytes_append, bitsOfBytes_storedBlock, List.flatten_cons, ← List.append_assoc out]
    exact .more (body_storedBits hposition hblock out) (ih hrest hnext _)

/-! ## Members -/

theorem length_le_of_mem_fullPieces {bytes piece : List UInt8}
    (h : piece ∈ Delivery.fullPieces bytes) : piece.length ≤ Delivery.pieceSize := by
  fun_induction Delivery.fullPieces bytes with
  | case1 => cases h
  | case2 b rest ih =>
    rcases List.mem_cons.mp h with rfl | h
    · exact List.length_take_le _ _
    · exact ih h

/-- Packed bytes are a member with the bytes as its content. -/
theorem isMember_pack (bytes : List UInt8) : IsMember bytes (pack bytes) := by
  let head : Head := ⟨false, [0, 0, 0, 0], 0, 0xff, none, none, none, none, rfl,
    by simp, by simp, by simp, by simp⟩
  have hhead : head.bytes = plainHead := by decide
  have hcut : ∀ block ∈ Delivery.fullPieces bytes, block.length < 0x10000 := fun block hblock =>
    Nat.lt_of_le_of_lt (length_le_of_mem_fullPieces hblock) (by decide)
  have hdata : IsData bytes (storedBlocks (Delivery.fullPieces bytes)) := by
    have hblocks := blocks_storedBlocks hcut (Nat.zero_mod 8) []
    rw [List.nil_append, Delivery.flatten_fullPieces] at hblocks
    exact ⟨_, [], hblocks, by decide, (List.append_nil _).symm⟩
  refine ⟨head, _, hdata, ?_⟩
  rw [pack, hhead]
  simp only [List.append_assoc]

/-- A packed file delivers what was packed. -/
theorem deliver_pack [Platform] (bytes : List UInt8) :
    (deliver (pack bytes)).failure = none ∧ (deliver (pack bytes)).bytes = bytes := by
  have hfile : IsFile [bytes] (pack bytes) := by
    have := IsFile.cons 0 (isMember_pack bytes) .nil
    rwa [List.replicate_zero, List.nil_append, List.append_nil] at this
  have hdeliver := deliver_of_isFile hfile (List.cons_ne_nil _ _)
  rwa [List.flatten_singleton] at hdeliver

end Gzip

end Vicinity
