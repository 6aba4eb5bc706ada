/-!
# Codecs

A `Codec` reads one character off the front of some bytes, or says why it cannot : because the
bytes end within a character, or because no character begins that way. `Codec.decode` repeats
it. Bytes that end within a character are a fault only at the end of all bytes (`final`);
before that they are left to be read together with the next ones.

A fault gives the bytes it is about by their positions, counted from the first byte of the ones
that are decoded together. `Codec.decodeEach` reads on after a fault and leaves a gap for it.
-/

namespace Vicinity

namespace Text

/-- Why bytes are not decoded. -/
inductive DecodeReason where
  | invalidStart
  | invalidContinuation
  | unexpectedEnd
  | truncated
  | illegalSurrogate
  | illegalEncoding
  | notAscii
  | undefinedByte
  /-- A reason that another codec gives. -/
  | other (wording : String)
deriving DecidableEq

/-- The wording of a reason. -/
def DecodeReason.message : DecodeReason → String
  | invalidStart => "invalid start byte"
  | invalidContinuation => "invalid continuation byte"
  | unexpectedEnd => "unexpected end of data"
  | truncated => "truncated data"
  | illegalSurrogate => "illegal UTF-16 surrogate"
  | illegalEncoding => "illegal encoding"
  | notAscii => "ordinal not in range(128)"
  | undefinedByte => "character maps to <undefined>"
  | other wording => wording

/-- What stands at the front of some bytes, besides their first one. -/
inductive CodecStep where
  /-- A character that takes `more` bytes after the first. -/
  | char (c : Char) (more : Nat)
  /-- The bytes could begin a character, but end within it. -/
  | incomplete (reason : DecodeReason)
  /-- The first byte and `more` bytes after it begin no character. -/
  | invalid (more : Nat) (reason : DecodeReason)

/-- A way to read one character off the front of a byte and those after it. -/
structure Codec where
  name : String
  step : UInt8 → List UInt8 → CodecStep

/-- The bytes from `start` up to `stop` cannot be decoded; `first` is the one at `start`. -/
structure DecodeError where
  codec : String
  start : Nat
  stop : Nat
  first : UInt8
  reason : DecodeReason

namespace Codec

/-- The characters of the bytes, the first of which has the given position, after those that
have been read before, the last of which comes first; with the bytes at the end that are left
for later. -/
def decodeFrom (codec : Codec) (final : Bool) (position : Nat) (before : List Char)
    (bytes : List UInt8) : Except DecodeError (List Char × List UInt8) :=
  match bytes with
  | [] => .ok (before.reverse, [])
  | b :: rest =>
    match codec.step b rest with
    | .char c more =>
      codec.decodeFrom final (position + more + 1) (c :: before) (rest.drop more)
    | .incomplete reason =>
      if final then .error ⟨codec.name, position, position + 1 + rest.length, b, reason⟩
      else .ok (before.reverse, b :: rest)
    | .invalid more reason => .error ⟨codec.name, position, position + 1 + more, b, reason⟩
termination_by bytes.length
decreasing_by
  simp only [List.length_drop, List.length_cons]
  omega

/-- The characters of the bytes, the first of which has the given position, with the bytes at
the end that are left for later. -/
def decode (codec : Codec) (final : Bool) (position : Nat) (bytes : List UInt8) :
    Except DecodeError (List Char × List UInt8) :=
  codec.decodeFrom final position [] bytes

/-- The characters of the bytes, and `none` for every run of bytes that is not decoded, after
those that have been read before, the last of which comes first. -/
def decodeEachFrom (codec : Codec) (before : List (Option Char)) (bytes : List UInt8) :
    List (Option Char) :=
  match bytes with
  | [] => before.reverse
  | b :: rest =>
    match codec.step b rest with
    | .char c more => codec.decodeEachFrom (some c :: before) (rest.drop more)
    | .incomplete _ => (none :: before).reverse
    | .invalid more _ => codec.decodeEachFrom (none :: before) (rest.drop more)
termination_by bytes.length
decreasing_by
  all_goals
    simp only [List.length_drop, List.length_cons]
    omega

/-- The characters of the bytes, and `none` for every run of bytes that is not decoded. -/
def decodeEach (codec : Codec) (bytes : List UInt8) : List (Option Char) :=
  codec.decodeEachFrom [] bytes

end Codec

end Text

end Vicinity
