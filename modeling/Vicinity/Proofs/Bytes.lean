import Vicinity.Platform

/-!
# Bytes

Bytes and characters are compared by their numbers; these are the ways from a number and back.
Bytes that are cut into pieces for a delivery are all delivered.
-/

namespace Vicinity

/-! ## Bytes and characters of a number -/

theorem toNat_toUInt8 {n : Nat} (h : n < 0x100) : n.toUInt8.toNat = n := by
  rw [Nat.toUInt8_eq, UInt8.toNat_ofNat', Nat.mod_eq_of_lt h]

theorem toUInt8_toNat (b : UInt8) : b.toNat.toUInt8 = b := by
  rw [Nat.toUInt8_eq, UInt8.ofNat_toNat]

theorem toUInt8_eq {n : Nat} {b : UInt8} (h : n = b.toNat) : n.toUInt8 = b := by
  rw [h, toUInt8_toNat]

theorem toNat_ofNat_of_isValidChar {n : Nat} (h : n.isValidChar) : (Char.ofNat n).toNat = n := by
  rw [Char.ofNat, dif_pos h]
  rfl

/-- Every byte is the number of a character. -/
theorem toNat_ofNat_toNat (b : UInt8) : (Char.ofNat b.toNat).toNat = b.toNat := by
  have := b.toNat_lt
  exact toNat_ofNat_of_isValidChar (Or.inl (by omega))

/-! ## Deliveries -/

namespace Delivery

theorem bytes_ofBytes [Platform] {ε : Type} (bytes : List UInt8) :
    (ofBytes bytes : Delivery ε).bytes = bytes :=
  Platform.flatten_cut bytes bytes

end Delivery

end Vicinity
