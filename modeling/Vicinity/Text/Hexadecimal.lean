/-!
# Hexadecimal digits

Numbers written with digits to the base sixteen, in lower case, and the value of a digit in
either case.
-/

namespace Vicinity

namespace Text

/-- At least `width` hexadecimal digits of a number. -/
def hexadecimal (width n : Nat) : List Char :=
  let digits := Nat.toDigits 16 n
  List.replicate (width - digits.length) '0' ++ digits

/-- The value of a hexadecimal digit of either case. -/
def digitValue? (c : Char) : Option Nat :=
  if '0' ≤ c ∧ c ≤ '9' then some (c.toNat - '0'.toNat)
  else if 'a' ≤ c ∧ c ≤ 'f' then some (c.toNat - 'a'.toNat + 10)
  else if 'A' ≤ c ∧ c ≤ 'F' then some (c.toNat - 'A'.toNat + 10)
  else none

/-- The number that hexadecimal digits write, the most significant first. -/
def ofHexadecimal? (digits : List Char) : Option Nat :=
  digits.foldlM (fun n c => (digitValue? c).map (16 * n + ·)) 0

/-- The bytes that pairs of hexadecimal digits write. -/
def bytesOfHexadecimal? : List Char → Option (List UInt8)
  | [] => some []
  | [_] => none
  | hi :: lo :: rest => do
    let n ← ofHexadecimal? [hi, lo]
    let bytes ← bytesOfHexadecimal? rest
    return n.toUInt8 :: bytes

end Text

end Vicinity
