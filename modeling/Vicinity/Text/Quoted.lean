import Vicinity.Text.Printable
import Vicinity.Text.Hexadecimal

/-!
# Quoted texts

A text in messages stands between quotes : single ones, unless it contains a single quote and
no double quote. A backslash and the quote in use are written with a backslash before them,
tab, line feed and carriage return as `\t`, `\n`, `\r`, and every other character that is not
printable by its number. Bytes are quoted by the same rules, each byte outside visible ASCII
as `\x` and two digits.
-/

namespace Vicinity

namespace Text

/-- The quote for a text : double only if it contains a single quote and no double one. -/
def quoteFor (chars : List Char) : Char :=
  if '\'' ∈ chars ∧ '"' ∉ chars then '"' else '\''

/-- A character inside a text quoted with `quote`. -/
def escaped (quote c : Char) : List Char :=
  if c = quote ∨ c = '\\' then ['\\', c]
  else if c = '\t' then ['\\', 't']
  else if c = '\n' then ['\\', 'n']
  else if c = '\r' then ['\\', 'r']
  else if isPrintable c then [c]
  else if c.toNat < 0x100 then '\\' :: 'x' :: hexadecimal 2 c.toNat
  else if c.toNat < 0x10000 then '\\' :: 'u' :: hexadecimal 4 c.toNat
  else '\\' :: 'U' :: hexadecimal 8 c.toNat

/-- A text between quotes. -/
def quoted (s : String) : String :=
  let quote := quoteFor s.toList
  String.ofList (quote :: (s.toList.flatMap (escaped quote) ++ [quote]))

/-- A byte inside bytes quoted with `quote`. -/
def escapedByte (quote : Char) (b : UInt8) : List Char :=
  if b < 0x7f then
    let c := Char.ofNat b.toNat
    escaped quote c
  else '\\' :: 'x' :: hexadecimal 2 b.toNat

/-- Bytes between quotes, after the letter `b`. -/
def quotedBytes (bytes : List UInt8) : String :=
  let quote := quoteFor (bytes.map fun b => Char.ofNat b.toNat)
  String.ofList ('b' :: quote :: (bytes.flatMap (escapedByte quote) ++ [quote]))

end Text

end Vicinity
