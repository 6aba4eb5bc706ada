import Vicinity.Checksum
import Vicinity.Deflate.Inflate

/-!
# Compressed streams

A compressed stream is a head of two bytes, compressed data, and a tail with the check of what
the data stands for, the most significant byte first. What follows the tail does not count, and
a stream may end before its tail does.
-/

namespace Vicinity

namespace Zlib

/-- The second bytes that a head can have, one for each level of compression. -/
def levels : List UInt8 := [0x01, 0x5e, 0x9c, 0xda]

/-- Whether bytes begin as a compressed stream does. -/
def isCompressed : List UInt8 → Bool
  | 0x78 :: level :: _ => levels.contains level
  | _ => false

/-- The number that bytes write, the most significant first. -/
def bigEndian (bytes : List UInt8) : Nat := bytes.foldl (fun n b => 256 * n + b.toNat) 0

/-- The content of a compressed stream, unless it is damaged. Of a stream that ends too early it
is what can be made of the data that is there, and a tail that is not complete is no check. -/
def content? (bytes : List UInt8) : Option (List UInt8) :=
  let inflated := Deflate.inflate (bytes.drop 2)
  match inflated.ending with
  | .error .starved => some inflated.output
  | .error (.corrupt _) => none
  | .ok tail =>
    if tail.length < 4 ∨ bigEndian (tail.take 4) = Checksum.adler32 inflated.output then
      some inflated.output
    else none

end Zlib

end Vicinity
