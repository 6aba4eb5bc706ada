import Vicinity.Value

/-!
# Objects

An object has an identifier, any number of labels and possibly an external identifier. A source
of objects yields finished records or loose values : a sequence of identifier, label cell and
external identifier, or anything else that can be walked through that way. `SourceItem.coerce`
makes records of both and says why an item is none.
-/

namespace Vicinity

/-- One object as an index of labels sees it. -/
structure ObjectRecord where
  id : Value
  labels : List Value := []
  externalId : Option Value := none

/-- What a source of objects yields. -/
inductive SourceItem where
  | record (r : ObjectRecord)
  | loose (v : Value)

/-- Why an item is not an object. -/
inductive ItemFault where
  /-- The item cannot be walked through. -/
  | notIterable
  /-- The item has no identifier or no label cell. -/
  | tooFew
  /-- The label cell is neither empty nor a text and cannot be walked through. -/
  | labelsNotIterable
deriving DecidableEq

namespace ObjectRecord

/-- The labels of a cell : none if it is empty, one if it is a text, otherwise all that it
yields but nulls. -/
def labelsOfCell : Value → Except ItemFault (List Value)
  | .null => .ok []
  | .text s => .ok [.text s]
  | cell =>
    match cell.elements? with
    | some items => .ok (items.filter (· ≠ .null))
    | none => .error .labelsNotIterable

/-- A record of an identifier, a label cell and an external identifier that may be null. -/
def ofCells (id cell externalId : Value) : Except ItemFault ObjectRecord := do
  let labels ← labelsOfCell cell
  return { id, labels, externalId := externalId.toOption }

/-- All that an object is known by, its external identifier first. -/
def names (r : ObjectRecord) : List Value := r.externalId.toList ++ r.labels

end ObjectRecord

/-- The object that an item stands for. What follows the external identifier is ignored. -/
def SourceItem.coerce : SourceItem → Except ItemFault ObjectRecord
  | .record r => .ok r
  | .loose v =>
    match v.elements? with
    | none => .error .notIterable
    | some (id :: cell :: rest) => ObjectRecord.ofCells id cell (rest.headD .null)
    | some _ => .error .tooFew

end Vicinity
