import Vicinity.Delivery
import Vicinity.Text.Encoding

/-!
# Platforms

What a load comes to depends in some places on the system that the library runs on : the sizes of
the pieces in which a file arrives, the text encodings that are known besides those of the library,
and how deep a value may be nested to be written as text. A `Platform` is a choice of all this, and
what is said of loads is said of every platform. `Platform.standard` is the one that the program
runs on where no other is given.
-/

namespace Vicinity

/-- What is left to the system. -/
class Platform where
  /-- The pieces in which content is delivered. What is left of the file tells where in it the
  content, or the compressed data that stands for it, begins. -/
  cut : (left content : List UInt8) → List (List UInt8)
  /-- Nothing is lost. -/
  flatten_cut : ∀ left content, (cut left content).flatten = content
  /-- The number of pieces that are delivered before compressed data is found to be damaged. -/
  salvaged : (left content : List UInt8) → Nat
  /-- The text encodings that are registered besides those of the library, by their names. -/
  decoder? : (name : String) → Option Text.ForeignDecoder
  /-- The encoding of a file if none is named. -/
  encoding : TextEncoding
  /-- How deep a value may be nested to be written as text. -/
  nesting : Nat

namespace Platform

/-- Full pieces, no encodings but those of the library, and UTF-8 if none is named. -/
@[reducible] def standard : Platform where
  cut _ content := Delivery.fullPieces content
  flatten_cut _ content := Delivery.flatten_fullPieces content
  salvaged _ content := content.length / Delivery.pieceSize
  decoder? _ := none
  encoding := .own .utf8
  nesting := 988

instance : Platform := standard

end Platform

/-- The pieces of a file that is not compressed. -/
def Delivery.ofBytes [Platform] {ε : Type} (bytes : List UInt8) : Delivery ε :=
  ⟨Platform.cut bytes bytes, none⟩

end Vicinity
