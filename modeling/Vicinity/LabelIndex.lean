import Vicinity.Event
import Vicinity.OrderedMap
import Vicinity.TableLibrary

/-!
# The index of labels

A `LabelIndex` finds the object that a label belongs to. It is built in one pass over a source
of objects : the external identifier of an object comes before its labels, and of several
objects with the same label the last one has it. Every label that passes from one object to
another is remembered as a collision, unless its former owner's identifier is null.

`Indexing` is the state of the pass and `Indexing.item` its step; an item that is no object, a label
that cannot be a key, or a collision that is to be told but whose wording cannot be made ends the
pass where it stands.
-/

namespace Vicinity

/-- Labels with the identifiers of their objects, in the order in which the labels first came. -/
structure LabelIndex where
  entries : OrderedMap Value
  /-- Objects that were seen, those without labels too. -/
  objectCount : Int
  collisions : List Collision

/-- Why a source of objects is not indexed. -/
inductive IndexFault where
  | badItem (f : ItemFault)
  /-- A label, or an external identifier, cannot be a key. -/
  | unhashableLabel
  /-- The wording of a collision that is to be told cannot be made. -/
  | unwritable (f : Value.LiteralFault)
deriving DecidableEq

namespace LabelIndex

/-- The index of pairs of a label and an identifier; of equal labels the last one counts. -/
def ofPairs (pairs : List (Value × Value)) (objectCount : Int) (collisions : List Collision) :
    Except IndexFault LabelIndex :=
  if pairs.all fun e => e.1.isHashable then .ok ⟨OrderedMap.ofList pairs, objectCount, collisions⟩
  else .error .unhashableLabel

/-- The identifier that a label belongs to. One that is null is as good as none. -/
def resolve? (index : LabelIndex) (label : String) : Option Value :=
  (index.entries.get? (.text label)).bind Value.toOption

/-- The number of labels. -/
def size (index : LabelIndex) : Nat := index.entries.size

/-- The columns of the labels with their identifiers. -/
def columns (index : LabelIndex) : List (String × ColumnCells) :=
  [("label", .texts index.entries.keys), ("object_id", .values index.entries.values)]

/-- The table of the labels with their identifiers. -/
def toFrame (index : LabelIndex) (lib : TableLibrary) : Except lib.Fault Frame :=
  lib.make index.columns

end LabelIndex

/-! ## Building -/

/-- An index that is being built, and what has been told so far. -/
structure Indexing where
  entries : OrderedMap Value := .empty
  objectCount : Nat := 0
  collisions : List Collision := []
  events : List Event := []

namespace Indexing

/-- Give a label to an object. It collides if another object has it. A collision is remembered
before it is told, and the label is given after that. -/
def label [Platform] (warn : Bool) (id : Value) (s : Indexing) (label : Value) :
    Except (Indexing × IndexFault) Indexing :=
  let given (s : Indexing) : Indexing := { s with entries := s.entries.insert label id }
  match s.entries.get? label with
  | none | some .null => .ok (given s)
  | some previousId =>
    if previousId.Equates id then .ok (given s)
    else
      let c : Collision := { label, previousId, id }
      let s := { s with collisions := s.collisions ++ [c] }
      if warn then
        match c.fault? with
        | none => .ok (given { s with events := s.events ++ [.collided c] })
        | some f => .error (s, .unwritable f)
      else .ok (given s)

/-- Give labels to an object up to the first one that cannot be a key. -/
def labels [Platform] (warn : Bool) (id : Value) (s : Indexing) :
    List Value → Except (Indexing × IndexFault) Indexing
  | [] => .ok s
  | l :: rest =>
    if l.isHashable then do labels warn id (← s.label warn id l) rest
    else .error (s, .unhashableLabel)

/-- Add an item. An item that ends the pass comes with the state it leaves behind. -/
def item [Platform] (warn : Bool) (s : Indexing) (item : SourceItem) :
    Except (Indexing × IndexFault) Indexing :=
  match item.coerce with
  | .error f => .error (s, .badItem f)
  | .ok r => labels warn r.id { s with objectCount := s.objectCount + 1 } r.names

/-- Add all items. -/
def items [Platform] (warn : Bool) (s : Indexing) (items : List SourceItem) :
    Except (Indexing × IndexFault) Indexing :=
  items.foldlM (item warn) s

end Indexing

/-- The index of a source of objects. Collisions are told if `warn` is set. -/
def LabelIndex.build [Platform] (items : List SourceItem) (warn : Bool) :
    Told (Except IndexFault LabelIndex) :=
  match Indexing.items warn { events := [.indexStarted] } items with
  | .error (s, f) => ⟨s.events, .error f⟩
  | .ok s =>
    ⟨s.events ++ [.indexFinished s.entries.size s.objectCount],
      .ok ⟨s.entries, s.objectCount, s.collisions⟩⟩

end Vicinity
