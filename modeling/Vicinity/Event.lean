import Vicinity.Stream
import Vicinity.Value.Literal

/-!
# Events

What is worth telling while objects are indexed and files are read, in the order in which it
happens. An `Event` holds what it is about; its level, the part of the library it comes from and
its wording are functions of it. A computation that tells events returns them beside its result
(`Told`).

The wording of a collision shows two identifiers, and not every value can be written
(`Collision.fault?`). It is made when the collision is told, so that telling it can fail. The
wordings of all other events can be made.
-/

namespace Vicinity

/-! ## What is remembered -/

/-- A label that passed from one object to another. -/
structure Collision where
  label : Value
  previousId : Value
  id : Value
deriving DecidableEq

/-- Why the wording of a collision cannot be made : its values are written in their order there. -/
def Collision.fault? [Platform] (c : Collision) : Option Value.LiteralFault :=
  (c.label.displayFault? Platform.nesting).or
    ((c.previousId.literalFault? Platform.nesting).or (c.id.literalFault? Platform.nesting))

/-- A label in a line that no object has. -/
structure UnresolvedLabel where
  label : String
  /-- Lines count from one. -/
  lineNumber : Nat
  /-- Tokens count from zero. -/
  tokenIndex : Nat
  isSubject : Bool
deriving DecidableEq

/-! ## Events -/

/-- How much an event matters. -/
inductive Level where
  | debug
  | info
  | warning
  | error
deriving DecidableEq

/-- The part of the library that an event comes from. -/
inductive Channel where
  | labels
  | neighbors
  | neighborhood
  | configuration
deriving DecidableEq

/-- What is told. -/
inductive Event where
  | indexStarted
  | collided (c : Collision)
  | indexFinished (labels objects : Nat)
  | loadRequested
  | loadStarted (path : String)
  | unresolved (u : UnresolvedLabel)
  | loadFailed (path : String) (failure : ReadFailure)
  | loadFinished (entries lines missing : Nat)
  | configurationMissing (path : String)

namespace Event

/-- How much an event matters. -/
def level : Event → Level
  | indexStarted | indexFinished .. => .debug
  | loadRequested | loadStarted _ | loadFinished .. | configurationMissing _ => .info
  | collided _ | unresolved _ => .warning
  | loadFailed .. => .error

/-- The part of the library that an event comes from. -/
def channel : Event → Channel
  | indexStarted | collided _ | indexFinished .. => .labels
  | loadStarted _ | unresolved _ | loadFailed .. | loadFinished .. => .neighbors
  | loadRequested => .neighborhood
  | configurationMissing _ => .configuration

/-- The wording of an event. -/
def message : Event → String
  | indexStarted => "Building reverse label index..."
  | collided c =>
    "Label '" ++ c.label.display ++ "' maps to both " ++ c.previousId.literal ++ " and " ++
      c.id.literal ++ "; keeping " ++ c.id.literal
  | indexFinished labels objects =>
    "Indexed " ++ toString labels ++ " labels for " ++ toString objects ++ " objects"
  | loadRequested => "Loading external neighborhoods."
  | loadStarted path => "Loading external neighborhoods from " ++ path
  | unresolved u =>
    "No object found for label '" ++ u.label ++ "' (line " ++ toString u.lineNumber ++ ", token " ++
      toString u.tokenIndex ++ ")"
  | loadFailed path failure =>
    "Loading of external neighborhood from " ++ path ++ " failed: " ++ failure.message
  | loadFinished entries lines missing =>
    "Loaded " ++ toString entries ++ " neighborhoods from " ++ toString lines ++ " lines (" ++
      toString missing ++ " unresolved labels)"
  | configurationMissing path => "No configuration at " ++ path ++ ", using defaults"

end Event

/-- A result and what was told on the way to it. -/
structure Told (α : Type) where
  events : List Event
  result : α

end Vicinity
