import Vicinity.Text.Codec

/-!
# UTF-16

A character takes one unit of two bytes, or two units if its number is above `FFFF` : a high
surrogate (`D800` to `DBFF`) and a low one (`DC00` to `DFFF`). The byte order says which byte of
a unit is the first.
-/

namespace Vicinity

namespace Text

/-- Which byte of a unit comes first. -/
inductive ByteOrder where
  | littleEndian
  | bigEndian
deriving DecidableEq

namespace Utf16

/-- The unit of its two bytes. -/
def unit (order : ByteOrder) (b b' : UInt8) : Nat :=
  match order with
  | .littleEndian => b.toNat + 256 * b'.toNat
  | .bigEndian => 256 * b.toNat + b'.toNat

/-- The character of a high and a low surrogate. -/
def pairChar (hi lo : Nat) : Char :=
  Char.ofNat (0x10000 + (hi - 0xd800) * 0x400 + (lo - 0xdc00))

/-- The character at the front of some bytes. -/
def step (order : ByteOrder) (b : UInt8) : List UInt8 → CodecStep
  | [] => .incomplete .truncated
  | b₁ :: rest =>
    let hi := unit order b b₁
    if hi < 0xd800 ∨ 0xe000 ≤ hi then .char (Char.ofNat hi) 1
    else if 0xdc00 ≤ hi then .invalid 1 .illegalEncoding
    else
      match rest with
      | b₂ :: b₃ :: _ =>
        let lo := unit order b₂ b₃
        if 0xdc00 ≤ lo ∧ lo < 0xe000 then .char (pairChar hi lo) 3
        else .invalid 1 .illegalSurrogate
      | _ => .incomplete .unexpectedEnd

/-- The byte order that the first two bytes tell, if they are a mark. -/
def orderOfMark? : List UInt8 → Option ByteOrder
  | 0xff :: 0xfe :: _ => some .littleEndian
  | 0xfe :: 0xff :: _ => some .bigEndian
  | _ => none

/-- The two bytes of a unit. -/
def unitBytes (order : ByteOrder) (n : Nat) : List UInt8 :=
  let hi := (n / 256).toUInt8
  let lo := (n % 256).toUInt8
  match order with
  | .littleEndian => [lo, hi]
  | .bigEndian => [hi, lo]

/-- The bytes of a character. -/
def encodeChar (order : ByteOrder) (c : Char) : List UInt8 :=
  if c.toNat < 0x10000 then unitBytes order c.toNat
  else
    let n := c.toNat - 0x10000
    unitBytes order (0xd800 + n / 0x400) ++ unitBytes order (0xdc00 + n % 0x400)

/-- The bytes of a text. -/
def encode (order : ByteOrder) (chars : List Char) : List UInt8 :=
  chars.flatMap (encodeChar order)

end Utf16

/-- UTF-16 in a byte order. -/
def Codec.utf16 (order : ByteOrder) : Codec where
  name :=
    match order with
    | .littleEndian => "utf-16-le"
    | .bigEndian => "utf-16-be"
  step := Utf16.step order

end Text

end Vicinity
