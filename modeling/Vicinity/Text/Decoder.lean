import Vicinity.Text.Encoding
import Vicinity.Text.Codec.SingleByte
import Vicinity.Text.Codec.Utf8
import Vicinity.Text.Codec.Utf16

/-!
# Decoding piece by piece

Bytes arrive in pieces that need not end where a character does. A `Decoder` keeps the bytes at
the end of a piece that could begin a character, and reads them with the next piece; a last,
empty piece makes what is still kept a fault. Two encodings begin with a state of their own :
signed UTF-8 leaves out a mark if the bytes begin with one, and UTF-16 takes its byte order
from the mark and refuses bytes without one. A decoder that is not the library's own is given all
pieces that came before.

Positions in faults count from the first byte of what is decoded together, that is, of the kept
bytes and the piece.
-/

namespace Vicinity

namespace Text

/-- Why a piece is not decoded. -/
inductive DecodeFault where
  | undecodable (e : DecodeError)
  /-- UTF-16 without a mark that tells the byte order. -/
  | missingMark
  /-- The bytes are refused by a decoder that is not the library's own. -/
  | refused (wording : String)

/-- The fault of a decoder that is not the library's own. -/
def DecodeFault.ofForeign : ForeignFault → DecodeFault
  | .undecodable e => .undecodable e
  | .refused wording => .refused wording

/-- Where decoding stands between two pieces. -/
inductive Decoder where
  /-- Characters are read with a codec. -/
  | reading (codec : Codec) (kept : List UInt8)
  /-- Signed UTF-8 before its first three bytes. -/
  | awaitingSignature (kept : List UInt8)
  /-- UTF-16 before its mark. -/
  | awaitingMark (kept : List UInt8)
  /-- Another decoder after some pieces. -/
  | foreign (d : ForeignDecoder) (before : List (List UInt8))

namespace Decoder

/-- The decoder at the beginning of a file in an encoding of the library. -/
def ofEncoding : Encoding → Decoder
  | .utf8 => reading .utf8 []
  | .utf8Signed => awaitingSignature []
  | .ascii => reading .ascii []
  | .latin1 => reading .latin1 []
  | .windows1252 => reading .windows1252 []
  | .utf16 => awaitingMark []
  | .utf16LittleEndian => reading (.utf16 .littleEndian) []
  | .utf16BigEndian => reading (.utf16 .bigEndian) []

/-- Read bytes with a codec and keep what is left. -/
def read (codec : Codec) (final : Bool) (position : Nat) (bytes : List UInt8) :
    Except DecodeFault (List Char × Decoder) :=
  match codec.decode final position bytes with
  | .ok (cs, left) => .ok (cs, reading codec left)
  | .error e => .error (.undecodable e)

/-- Read bytes of signed UTF-8 from the beginning. Fewer than three bytes that a mark begins
with are kept, even if no more follow. -/
def readSigned (final : Bool) (bytes : List UInt8) :
    Except DecodeFault (List Char × Decoder) :=
  if bytes.length < 3 ∧ bytes.isPrefixOf Utf8.mark then .ok ([], awaitingSignature bytes)
  else if Utf8.mark.isPrefixOf bytes then read .utf8 final 0 (bytes.drop 3)
  else read .utf8 final 0 bytes

/-- Read bytes of UTF-16 from the beginning. Without a mark the bytes are taken for
little-endian; any whole character is then one too many. -/
def readMarked (final : Bool) (bytes : List UInt8) :
    Except DecodeFault (List Char × Decoder) :=
  match Utf16.orderOfMark? bytes with
  | some order => read (.utf16 order) final 2 (bytes.drop 2)
  | none =>
    match (Codec.utf16 .littleEndian).decode final 0 bytes with
    | .error e => .error (.undecodable e)
    | .ok (_, left) =>
      if left.length + 2 ≤ bytes.length then .error .missingMark
      else .ok ([], awaitingMark left)

/-- The characters of a piece, read after the bytes that were kept. -/
def feed (final : Bool) (d : Decoder) (piece : List UInt8) :
    Except DecodeFault (List Char × Decoder) :=
  match d with
  | reading codec kept => read codec final 0 (kept ++ piece)
  | awaitingSignature kept => readSigned final (kept ++ piece)
  | awaitingMark kept => readMarked final (kept ++ piece)
  | foreign d before =>
    match d.feed before final piece with
    | .ok cs => .ok (cs, foreign d (before ++ [piece]))
    | .error f => .error (.ofForeign f)

/-- The characters of all pieces, up to the first fault. -/
def feedAll (d : Decoder) : List (List UInt8) → List Char × Except DecodeFault Decoder
  | [] => ([], .ok d)
  | piece :: pieces =>
    match d.feed false piece with
    | .error f => ([], .error f)
    | .ok (cs, d) =>
      let (cs', end_) := d.feedAll pieces
      (cs ++ cs', end_)

end Decoder

end Text

/-- The decoder at the beginning of a file. -/
def TextEncoding.decoder : TextEncoding → Text.Decoder
  | own e => .ofEncoding e
  | foreign d => .foreign d []

end Vicinity
