import Vicinity.Text.Codec

/-!
# Encodings with one byte per character

ASCII, Latin-1 and Windows-1252. The last differs from Latin-1 in the bytes `80` to `9F`, of
which five stand for no character.
-/

namespace Vicinity

namespace Text

namespace Codec

/-- The bytes below `80` are the first 128 characters. -/
def ascii : Codec where
  name := "ascii"
  step b _ := if b < 0x80 then .char (Char.ofNat b.toNat) 0 else .invalid 0 .notAscii

/-- Every byte is the character of its number. -/
def latin1 : Codec where
  name := "latin-1"
  step b _ := .char (Char.ofNat b.toNat) 0

/-- The characters of the bytes `80` to `9F` in Windows-1252; zero stands for none. -/
def windows1252High : List Nat :=
  [0x20ac, 0, 0x201a, 0x192, 0x201e, 0x2026, 0x2020, 0x2021, 0x2c6, 0x2030, 0x160, 0x2039, 0x152,
    0, 0x17d, 0, 0, 0x2018, 0x2019, 0x201c, 0x201d, 0x2022, 0x2013, 0x2014, 0x2dc, 0x2122, 0x161,
    0x203a, 0x153, 0, 0x17e, 0x178]

/-- The character of a byte in Windows-1252. -/
def windows1252Char? (b : UInt8) : Option Char :=
  if b < 0x80 ∨ 0xa0 ≤ b then some (Char.ofNat b.toNat)
  else
    match windows1252High[b.toNat - 0x80]? with
    | some 0 | none => none
    | some n => some (Char.ofNat n)

/-- Windows-1252, the Western code page. -/
def windows1252 : Codec where
  name := "charmap"
  step b _ :=
    match windows1252Char? b with
    | some c => .char c 0
    | none => .invalid 0 .undefinedByte

end Codec

end Text

end Vicinity
