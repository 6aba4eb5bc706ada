import Vicinity.Text.Codec

/-!
# UTF-8

A character takes one to four bytes. The first byte tells how many (`C2` to `DF` two, `E0` to
`EF` three, `F0` to `F4` four), the others are `80` to `BF`; after `E0`, `ED`, `F0` and `F4` the
range of the second byte is narrower, which leaves out overlong forms, surrogates and numbers
above `10FFFF` (`Utf8.secondRange`). What is not decoded is the longest run of bytes that a
character could begin with, or a first byte that begins none.
-/

namespace Vicinity

namespace Text

namespace Utf8

/-- A byte that continues a character. -/
def isContinuation (b : UInt8) : Bool := 0x80 ≤ b && b ≤ 0xbf

/-- The least and the greatest second byte after a first byte from `E0` on. -/
def secondRange (b : UInt8) : UInt8 × UInt8 :=
  if b = 0xe0 then (0xa0, 0xbf)
  else if b = 0xed then (0x80, 0x9f)
  else if b = 0xf0 then (0x90, 0xbf)
  else if b = 0xf4 then (0x80, 0x8f)
  else (0x80, 0xbf)

/-- A second byte that may follow a first byte from `E0` on. -/
def isSecond (b b₁ : UInt8) : Bool := (secondRange b).1 ≤ b₁ && b₁ ≤ (secondRange b).2

/-- The six bits that a continuation byte adds. -/
def addBits (n : Nat) (b : UInt8) : Nat := n * 64 + b.toNat % 64

/-- A first byte from `C2` to `DF`. -/
def step2 (b : UInt8) : List UInt8 → CodecStep
  | [] => .incomplete .unexpectedEnd
  | b₁ :: _ =>
    if isContinuation b₁ then .char (Char.ofNat (addBits (b.toNat % 32) b₁)) 1
    else .invalid 0 .invalidContinuation

/-- A first byte from `E0` to `EF`. -/
def step3 (b : UInt8) : List UInt8 → CodecStep
  | [] => .incomplete .unexpectedEnd
  | b₁ :: rest =>
    if isSecond b b₁ then
      match rest with
      | [] => .incomplete .unexpectedEnd
      | b₂ :: _ =>
        if isContinuation b₂ then .char (Char.ofNat (addBits (addBits (b.toNat % 16) b₁) b₂)) 2
        else .invalid 1 .invalidContinuation
    else .invalid 0 .invalidContinuation

/-- A first byte from `F0` to `F4`. -/
def step4 (b : UInt8) : List UInt8 → CodecStep
  | [] => .incomplete .unexpectedEnd
  | b₁ :: rest =>
    if isSecond b b₁ then
      match rest with
      | [] => .incomplete .unexpectedEnd
      | b₂ :: rest =>
        if isContinuation b₂ then
          match rest with
          | [] => .incomplete .unexpectedEnd
          | b₃ :: _ =>
            if isContinuation b₃ then
              .char (Char.ofNat (addBits (addBits (addBits (b.toNat % 8) b₁) b₂) b₃)) 3
            else .invalid 2 .invalidContinuation
        else .invalid 1 .invalidContinuation
    else .invalid 0 .invalidContinuation

/-- The character at the front of some bytes. -/
def step (b : UInt8) (rest : List UInt8) : CodecStep :=
  if b < 0x80 then .char (Char.ofNat b.toNat) 0
  else if b < 0xc2 then .invalid 0 .invalidStart
  else if b < 0xe0 then step2 b rest
  else if b < 0xf0 then step3 b rest
  else if b < 0xf5 then step4 b rest
  else .invalid 0 .invalidStart

/-- The bytes of a text. -/
def encode (chars : List Char) : List UInt8 := chars.flatMap String.utf8EncodeChar

/-- The mark at the beginning of some files. -/
def mark : List UInt8 := [0xef, 0xbb, 0xbf]

end Utf8

/-- UTF-8. -/
def Codec.utf8 : Codec where
  name := "utf-8"
  step := Utf8.step

end Text

end Vicinity
