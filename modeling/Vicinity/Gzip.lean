import Vicinity.Checksum
import Vicinity.Deflate.Inflate
import Vicinity.Platform
import Vicinity.Text.Quoted

/-!
# Compressed files

A compressed file is a sequence of members. A member is a head, compressed data, and a tail with
the check and the length of what the data stands for; zero bytes may follow it. A file is known
to be compressed by its first two bytes (`Gzip.isCompressed`). `Gzip.unpack` delivers the content
of all members, and the failure, if any, where it is met : a wrong check or what follows a
member shows only after the content of the member has been delivered, a file that ends within
the data only after all that could be made of it. Of data that is no compressed data only the
first of the pieces before are delivered.

`Gzip.content?` is the content as a whole and has no use for a part of it. It looks closer at the
heads, and nothing may stand between two members.
-/

namespace Vicinity

/-- Why a compressed file is not read to its end. -/
inductive GzipError where
  /-- A member does not begin with the two bytes that tell a compressed file. -/
  | notCompressed (found : List UInt8)
  | unknownMethod
  | wrongChecksum (stored computed : UInt32)
  | wrongLength
  /-- The file ends within a member. -/
  | truncated
  | corrupt (f : Deflate.Fault)

namespace GzipError

/-- The wording of an error. -/
def message : GzipError → String
  | notCompressed found => "Not a gzipped file (" ++ Text.quotedBytes found ++ ")"
  | unknownMethod => "Unknown compression method"
  | wrongChecksum stored computed =>
    "CRC check failed 0x" ++ String.ofList (Text.hexadecimal 1 stored.toNat) ++ " != 0x" ++
      String.ofList (Text.hexadecimal 1 computed.toNat)
  | wrongLength => "Incorrect length of data produced"
  | truncated => "Compressed file ended before the end-of-stream marker was reached"
  | corrupt f => "Error -3 while decompressing data: " ++ f.message

end GzipError

namespace Gzip

/-! ## Heads and tails -/

/-- Whether bytes begin as a member does. -/
def isCompressed : List UInt8 → Bool
  | 0x1f :: 0x8b :: _ => true
  | _ => false

/-- The number that bytes write, the least significant first. -/
def littleEndian : List UInt8 → Nat
  | [] => 0
  | b :: rest => b.toNat + 256 * littleEndian rest

/-- Skip `n` bytes, which must be there. -/
def skip (n : Nat) (bytes : List UInt8) : Except GzipError (List UInt8) :=
  if n ≤ bytes.length then .ok (bytes.drop n) else .error .truncated

/-- Skip a field that a zero byte ends; without one it takes all bytes. -/
def skipText (bytes : List UInt8) : List UInt8 := (bytes.dropWhile (· ≠ 0)).drop 1

/-- Skip a field that gives its length in two bytes. -/
def skipExtra (bytes : List UInt8) : Except GzipError (List UInt8) := do
  let rest ← skip 2 bytes
  skip (littleEndian (bytes.take 2)) rest

/-- Skip a head after its first two bytes : the method, which must be the only one there is,
flags that tell which fields follow, six bytes, and the fields. -/
def skipHead (bytes : List UInt8) : Except GzipError (List UInt8) :=
  match bytes with
  | method :: flags :: _ => do
    let rest ← skip 8 bytes
    if method ≠ 8 then throw .unknownMethod
    let rest ← if flags &&& 4 ≠ 0 then skipExtra rest else pure rest
    let rest := if flags &&& 8 ≠ 0 then skipText rest else rest
    let rest := if flags &&& 16 ≠ 0 then skipText rest else rest
    if flags &&& 2 ≠ 0 then skip 2 rest else pure rest
  | _ => throw .truncated

/-- Compare a tail with the content of its member. -/
def checkTail (content tail : List UInt8) : Except GzipError (List UInt8) := do
  let rest ← skip 8 tail
  let stored := (littleEndian (tail.take 4)).toUInt32
  let computed := Checksum.crc32 content
  if stored ≠ computed then throw (.wrongChecksum stored computed)
  if littleEndian ((tail.drop 4).take 4) ≠ content.length % 0x100000000 then throw .wrongLength
  return rest

/-! ## Members -/

/-- The pieces of a member that are delivered, and what follows the member or the failure. -/
def member [Platform] (bytes : List UInt8) : List (List UInt8) × Except GzipError (List UInt8) :=
  if !isCompressed bytes then ([], .error (.notCompressed (bytes.take 2)))
  else
    match skipHead (bytes.drop 2) with
    | .error e => ([], .error e)
    | .ok data =>
      let inflated := Deflate.inflate data
      let pieces := Platform.cut bytes inflated.output
      match inflated.ending with
      | .ok tail => (pieces, checkTail inflated.output tail)
      | .error .starved => (pieces, .error .truncated)
      | .error (.corrupt f) =>
        (pieces.take (Platform.salvaged bytes inflated.output), .error (.corrupt f))

/-- The content of all members. Every member takes at least one byte, so that `todo`, which is
at least the number of bytes, never runs out. -/
def members [Platform] : (todo : Nat) → List UInt8 → Delivery GzipError
  | 0, _ => ⟨[], none⟩
  | _ + 1, [] => ⟨[], none⟩
  | todo + 1, bytes =>
    match member bytes with
    | (pieces, .error e) => ⟨pieces, some e⟩
    | (pieces, .ok rest) =>
      let later := members todo (rest.dropWhile (· = 0))
      ⟨pieces ++ later.pieces, later.failure⟩

/-- The content of a compressed file. -/
def unpack [Platform] (bytes : List UInt8) : Delivery GzipError := members bytes.length bytes

/-- What a file delivers, unpacked if it is compressed. -/
def deliver [Platform] (bytes : List UInt8) : Delivery GzipError :=
  if isCompressed bytes then unpack bytes else Delivery.ofBytes bytes

/-! ## Whole files -/

/-- Whether the head of a member keeps to the format : of its flags those without a meaning are
not set, and if the flag of a check is set, the head ends with the low half of its check. -/
def isRegularHead (head : List UInt8) : Bool :=
  let flags := head[3]?.getD 0
  let checked := head.take (head.length - 2)
  flags &&& 0xe0 = 0 && (flags &&& 2 = 0 ||
    littleEndian (head.drop checked.length) = (Checksum.crc32 checked).toNat % 0x10000)

/-- Whether bytes begin with a head that keeps to the format. -/
def beginsRegularly (bytes : List UInt8) : Bool :=
  match skipHead (bytes.drop 2) with
  | .ok rest => isRegularHead (bytes.take (bytes.length - rest.length))
  | .error _ => false

/-- The content of members that follow each other immediately, unless one of them is damaged or
its head does not keep to the format. Every member takes at least one byte, so that `todo`, which
is at least the number of bytes, never runs out. -/
def contentOfMembers? [Platform] : (todo : Nat) → List UInt8 → Option (List UInt8)
  | 0, _ => some []
  | _ + 1, [] => some []
  | todo + 1, bytes =>
    match beginsRegularly bytes, member bytes with
    | true, (pieces, .ok rest) => (contentOfMembers? todo rest).map (pieces.flatten ++ ·)
    | _, _ => none

/-- The content of a compressed file as a whole. -/
def content? [Platform] (bytes : List UInt8) : Option (List UInt8) :=
  contentOfMembers? bytes.length bytes

end Gzip

end Vicinity
