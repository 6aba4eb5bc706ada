import Vicinity.FileSystem
import Vicinity.Gzip
import Vicinity.NeighborStore
import Vicinity.Text.Codec.Utf8
import Vicinity.Value.Literal

/-!
# Writing neighbor files

A store is written with one line for each subject : its label and those of its neighbors, with
single spaces between them. A `Labeler` gives the label of an identifier : the identifier's own
text (`Labeler.own`) if nothing else is said. What is written before a label is missing is a part
of the result (`NeighborFile.lines`), for it is in the file then.

A file can be compressed : `Gzip.pack` makes one member of stored blocks.
-/

namespace Vicinity

/-! ## Labels -/

/-- Why a line is not written. -/
inductive LabelFault where
  | key (f : KeyFault)
  /-- A label is not a text. -/
  | notText
deriving DecidableEq

/-- How identifiers are named : the label of each, which may be missing. -/
structure Labeler where
  label : Value → Except LabelFault Value

namespace Labeler

/-- Identifiers are named by their own text. -/
def own : Labeler where
  label id := .ok (.text id.display)

/-- Identifiers are named as given. -/
def given (labels : OrderedMap Value) : Labeler where
  label id :=
    if id.isHashable then
      match labels.get? id with
      | some label => .ok label
      | none => .error (.key (.missing id))
    else .error (.key .unhashable)

end Labeler

/-- The text of a label. -/
def textOfLabel : Value → Except LabelFault String
  | .text s => .ok s
  | _ => .error .notText

namespace NeighborFile

/-! ## Lines -/

/-- The line of an entry. All labels are looked up before any is written. -/
def line (labeler : Labeler) (entry : Value × List Value) : Except LabelFault String := do
  let labels ← (entry.1 :: entry.2).mapM labeler.label
  let tokens ← labels.mapM textOfLabel
  return " ".intercalate tokens ++ "\n"

/-- The lines of entries up to the first one that is not written. -/
def lines (labeler : Labeler) : List (Value × List Value) → List String × Option LabelFault
  | [] => ([], none)
  | entry :: rest =>
    match line labeler entry with
    | .error f => ([], some f)
    | .ok l =>
      let (ls, f) := lines labeler rest
      (l :: ls, f)

/-- The text of a store. -/
def serialize (labeler : Labeler) (s : NeighborStore) : Except LabelFault String :=
  match lines labeler s.toList with
  | (ls, none) => .ok (String.join ls)
  | (_, some f) => .error f

end NeighborFile

/-! ## Compression -/

namespace Gzip

/-- A number in `n` bytes, the least significant first. -/
def bytesOfNumber : (n : Nat) → Nat → List UInt8
  | 0, _ => []
  | n + 1, value => (value % 256).toUInt8 :: bytesOfNumber n (value / 256)

/-- A stored block of at most 65535 bytes. -/
def storedBlock (final : Bool) (bytes : List UInt8) : List UInt8 :=
  (if final then 1 else 0) :: (bytesOfNumber 2 bytes.length ++
    bytesOfNumber 2 (0xffff - bytes.length) ++ bytes)

/-- Stored blocks, the last of which is marked. -/
def storedBlocks : List (List UInt8) → List UInt8
  | [] => storedBlock true []
  | [last] => storedBlock true last
  | block :: rest => storedBlock false block ++ storedBlocks rest

/-- The ten bytes of a head without fields. -/
def plainHead : List UInt8 := [0x1f, 0x8b, 8, 0, 0, 0, 0, 0, 0, 0xff]

/-- A compressed file of one member. -/
def pack (bytes : List UInt8) : List UInt8 :=
  plainHead ++ storedBlocks (Delivery.fullPieces bytes) ++
    bytesOfNumber 4 (Checksum.crc32 bytes).toNat ++ bytesOfNumber 4 bytes.length

end Gzip

namespace NeighborFile

/-! ## Files -/

/-- Why a file is not written, or not to its end. -/
inductive WriteFailure where
  | opening (e : OpenError)
  | pathContainsNul
  | label (f : LabelFault)

/-- The bytes of lines. -/
def encode (compress : Bool) (lines : List String) : List UInt8 :=
  let bytes := Text.Utf8.encode (String.join lines).toList
  if compress then Gzip.pack bytes else bytes

/-- Write a store to a file. The file is there even if a line is not written. -/
def write (labeler : Labeler) (s : NeighborStore) (fs : FileSystem) (path : String)
    (compress : Bool) : FileSystem × Option WriteFailure :=
  if path.contains '\x00' then (fs, some .pathContainsNul)
  else
    let (ls, fault) := lines labeler s.toList
    match fs.write path (.file (encode compress ls)) with
    | .error e => (fs, some (.opening e))
    | .ok fs => (fs, fault.map .label)

end NeighborFile

end Vicinity
