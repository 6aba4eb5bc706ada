/-!
# Checks

The checks of 32 bits with which compressed files guard their content. `Checksum.crc32` is the
remainder of a division of bit polynomials, taken from the low end, one bit of the content after
the other; `Checksum.adler32` is two sums, of the bytes and of the sums so far.
-/

namespace Vicinity

namespace Checksum

/-- The divisor, its lowest power in the highest bit. -/
def divisor : UInt32 := 0xedb88320

/-- One step of the division. -/
def step (r : UInt32) : UInt32 := if r &&& 1 = 1 then (r >>> 1) ^^^ divisor else r >>> 1

/-- The remainder after one more byte. -/
def update (r : UInt32) (b : UInt8) : UInt32 :=
  step (step (step (step (step (step (step (step (r ^^^ b.toUInt32))))))))

/-- The check of some bytes. -/
def crc32 (bytes : List UInt8) : UInt32 := bytes.foldl update 0xffffffff ^^^ 0xffffffff

/-- The number at which the sums begin again. -/
def adlerModulus : Nat := 65521

/-- The sums after one more byte. -/
def adlerUpdate (sums : Nat × Nat) (b : UInt8) : Nat × Nat :=
  let low := (sums.1 + b.toNat) % adlerModulus
  (low, (sums.2 + low) % adlerModulus)

/-- The sums of some bytes, in one number. -/
def adler32 (bytes : List UInt8) : Nat :=
  let (low, high) := bytes.foldl adlerUpdate (1, 0)
  high * 0x10000 + low

end Checksum

end Vicinity
