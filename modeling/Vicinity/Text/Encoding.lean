import Vicinity.Text.Codec

/-!
# Text encodings

Eight encodings are read by the codecs of this library (`Encoding`). Any other is known by its
decoder alone (`Text.ForeignDecoder`), which the system that the library runs on brings with it.
-/

namespace Vicinity

/-- An encoding of text as bytes. -/
inductive Encoding where
  | utf8
  /-- UTF-8 with an optional mark at its beginning. -/
  | utf8Signed
  | ascii
  | latin1
  | windows1252
  /-- UTF-16 whose byte order a mark at its beginning tells. -/
  | utf16
  | utf16LittleEndian
  | utf16BigEndian
deriving DecidableEq

namespace Text

/-- Why a decoder that is not the library's own does not decode a piece. -/
inductive ForeignFault where
  | undecodable (e : DecodeError)
  /-- The bytes as a whole are refused, as UTF-16 without its mark is. -/
  | refused (wording : String)

/-- A decoder that is not the library's own. What it makes of a piece depends on the pieces before
it, and on whether the piece is the last one. -/
structure ForeignDecoder where
  feed : (before : List (List UInt8)) → (final : Bool) → (piece : List UInt8) →
    Except ForeignFault (List Char)

end Text

/-- An encoding in which a file can be read. -/
inductive TextEncoding where
  | own (e : Encoding)
  | foreign (d : Text.ForeignDecoder)

instance : Coe Encoding TextEncoding := ⟨.own⟩

end Vicinity
