/-!
# Deliveries

A source of bytes hands them over in pieces and then ends, or fails. A `Delivery` is all it
hands over and how it ends, so that what came before a failure can be told from what did not.
-/

namespace Vicinity

/-- Pieces that are handed over, and the failure, if any, that follows them. -/
structure Delivery (ε : Type) where
  pieces : List (List UInt8)
  failure : Option ε := none

namespace Delivery

/-- The greatest number of bytes in a piece. -/
def pieceSize : Nat := 8192

/-- Bytes cut into pieces, all full but the last one, which is not empty. -/
def fullPieces (bytes : List UInt8) : List (List UInt8) :=
  match bytes with
  | [] => []
  | b :: rest => (b :: rest).take pieceSize :: fullPieces ((b :: rest).drop pieceSize)
termination_by bytes.length
decreasing_by
  simp only [pieceSize, List.length_drop, List.length_cons]
  omega

theorem flatten_fullPieces (bytes : List UInt8) : (fullPieces bytes).flatten = bytes := by
  fun_induction fullPieces bytes with
  | case1 => rfl
  | case2 b rest ih => rw [List.flatten_cons, ih, List.take_append_drop]

/-- All bytes of the pieces. -/
def bytes {ε : Type} (d : Delivery ε) : List UInt8 := d.pieces.flatten

end Delivery

end Vicinity
