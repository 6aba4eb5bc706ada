import Vicinity.Neighborhood
import Vicinity.Proofs.Store.Calls
import Vicinity.Proofs.Value.Equality

/-!
# Spellings of identifiers

The spelling of an identifier makes no difference to a store, whichever question it is asked : two
spellings get the same neighbors, the same absence, or the same refusal (`NeighborStore.AnswersAs`).
Nor does it make a difference to a store that is being built : calls that differ in nothing but the
spelling of their subjects are answered alike (`NeighborStore.Agrees.forall₂_answers`), and come to
stores that answer alike (`NeighborStore.Agrees.answersAs`).

What is meant by two spellings of one identifier are the rules of equality (`Value.Equals`). So
equality is an equivalence that keys, stores and neighborhoods respect
(`NeighborStore.answersAs_of_same`).
-/

namespace Vicinity

namespace NeighborStore

/-- The store answers about `x` as `t` does about `y`, in every form in which they are asked. -/
structure AnswersAs (s : NeighborStore) (x : Value) (t : NeighborStore) (y : Value) : Prop where
  get : s.get x = t.get y
  contains : s.contains x = t.contains y
  /-- An identifier that is missing is told as it was asked for. -/
  getEntry : s.getEntry x = t.getEntry y ∨
    s.getEntry x = .error (.missing x) ∧ t.getEntry y = .error (.missing y)
  neighbors : (Neighborhood.mk s).neighbors x = (Neighborhood.mk t).neighbors y
  hasNeighbors : (Neighborhood.mk s).hasNeighbors x = (Neighborhood.mk t).hasNeighbors y

/-- Both answers to a call are the same, but for the spelling of subjects in a store. -/
inductive Call.AnsweredAlike : Except KeyFault (Option NeighborStore) →
    Except KeyFault (Option NeighborStore) → Prop
  | refused (f : KeyFault) : AnsweredAlike (.error f) (.error f)
  | appended : AnsweredAlike (.ok none) (.ok none)
  | frozen {s t : NeighborStore} (h : ∀ x y, x.Same y → s.AnswersAs x t y) :
    AnsweredAlike (.ok (some s)) (.ok (some t))

namespace Agrees

variable {s t : NeighborStore} (h : s.Agrees t)
include h

theorem answersAs {x y : Value} (hxy : x.Same y) : s.AnswersAs x t y where
  get := h.get hxy
  contains := h.contains hxy
  getEntry := by
    rw [getEntry, getEntry, h.get hxy]
    cases t.get y with
    | error f => exact .inl rfl
    | ok found =>
      cases found with
      | none => exact .inr ⟨rfl, rfl⟩
      | some neighbors => exact .inl rfl
  neighbors := by rw [Neighborhood.neighbors, Neighborhood.neighbors, h.get hxy]
  hasNeighbors := h.contains hxy

/-- Calls with other spellings are answered alike. -/
theorem answeredAlike {c c' : Call} (hc : c.Same c') :
    Call.AnsweredAlike (s.answer c).2 (t.answer c').2 := by
  cases hc with
  | freeze => exact .frozen fun x y => h.answersAs
  | @append subject subject' hsame neighbors =>
    by_cases hkey : subject.isHashable
    · have hkey' : subject'.isHashable := Value.isHashable_eq_of_same hsame ▸ hkey
      rw [NeighborStore.answer, NeighborStore.answer, append?_of_isHashable s neighbors hkey,
        append?_of_isHashable t neighbors hkey']
      exact .appended
    · have hkey' : subject'.isHashable = false :=
        Value.isHashable_eq_of_same hsame ▸ Bool.eq_false_iff.mpr hkey
      rw [answer_append_of_not_isHashable s neighbors (Bool.eq_false_iff.mpr hkey),
        answer_append_of_not_isHashable t neighbors hkey']
      exact .refused _

theorem forall₂_answers {calls calls' : List Call} (hcalls : List.Forall₂ Call.Same calls calls') :
    List.Forall₂ Call.AnsweredAlike (s.answers calls).2 (t.answers calls').2 := by
  induction hcalls generalizing s t with
  | nil => exact .nil
  | cons hc _ ih => exact .cons (h.answeredAlike hc) (ih (h.answer hc))

end Agrees

/-- Sameness of identifiers is equality of what they mean, and nothing tells two spellings of one
identifier apart.

- Identifiers mean the same if and only if they are equal by the rules of equality : numbers by
  their value, in any spelling, tuples item by item, and dictionaries in any order of their keys.
- Sameness is reflexive, symmetric and transitive.
- Of two values that mean the same, both or neither can be a key.
- A store answers alike for identifiers that mean the same, in every form.
- Calls with other spellings of their subjects are answered alike while a store is built, and the
  stores that they come to answer alike. -/
theorem answersAs_of_same :
    (∀ a b : Value, a.IsIdentifier → b.IsIdentifier → (a.Same b ↔ a.Equals b)) ∧
      Equivalence Value.Same ∧
      (∀ a b : Value, a.Same b → a.isHashable = b.isHashable) ∧
      (∀ (s : NeighborStore) (x y : Value), x.Same y → s.AnswersAs x s y) ∧
      ∀ calls calls', List.Forall₂ Call.Same calls calls' →
        List.Forall₂ Call.AnsweredAlike (empty.answers calls).2 (empty.answers calls').2 ∧
          ∀ x y, x.Same y → (empty.answers calls).1.AnswersAs x (empty.answers calls').1 y := by
  have hself (s : NeighborStore) : s.Agrees s := fun _ => rfl
  refine ⟨fun a b ha hb => Value.same_iff_equals ha hb, ⟨.refl, .symm, .trans⟩,
    fun a b => Value.isHashable_eq_of_same, fun s x y => (hself s).answersAs,
    fun calls calls' hcalls => ⟨(hself empty).forall₂_answers hcalls, fun x y => ?_⟩⟩
  exact ((hself empty).answers hcalls).answersAs

/-- Two, as a floating-point number. -/
def pointedTwo : Binary64.Finite := ⟨false, 4503599627370496, -51, by decide⟩

/-- A tuple with a dictionary in it. -/
def nested : Value :=
  .tuple [.bool true, .dict [("x", .int 2), ("y", .tuple [.null, .bool false])]]

/-- The same tuple, with other numbers and another order of the keys. -/
def respelled : Value :=
  .tuple [.int 1, .dict [("y", .tuple [.null, .int 0]), ("x", .float (.finite pointedTwo))]]

/-- Appends to a number and to a value that cannot be a key. -/
def nestedCalls (number value : Value) : List Call :=
  [.append number [.text "a"], .append value [], .freeze]

theorem answersAs_of_same_nested :
    let two := Value.float (.finite pointedTwo)
    let calls := nestedCalls (.int 2) nested
    let calls' := nestedCalls two respelled
    nested.IsIdentifier ∧ respelled.IsIdentifier ∧ nested.Equals respelled ∧
      nested.isHashable = respelled.isHashable ∧ empty.AnswersAs nested empty respelled ∧
      List.Forall₂ Call.Same calls calls' ∧
      List.Forall₂ Call.AnsweredAlike (empty.answers calls).2 (empty.answers calls').2 ∧
      (empty.answers calls).1.AnswersAs two (empty.answers calls').1 (.int 2) ∧
      (empty.answers calls).1.get two = .ok (some [.text "a"]) ∧
      (empty.answers calls).1.get nested = .error .unhashable := by
  intro two calls calls'
  obtain ⟨hequals, -, hkeys, hstores, hcalls⟩ := answersAs_of_same
  have hnested : nested.IsIdentifier := by
    have hlast : (Value.tuple [.null, .bool false]).IsIdentifier :=
      .tuple (by simp [Value.IsIdentifier.null, Value.IsIdentifier.bool])
    have hdict : (Value.dict [("x", .int 2), ("y", .tuple [.null, .bool false])]).IsIdentifier :=
      .dict (by decide) (by simp [Value.IsIdentifier.int, hlast])
    exact .tuple (by simp [Value.IsIdentifier.bool, hdict])
  have hrespelled : respelled.IsIdentifier := by
    have hfirst : (Value.tuple [.null, .int 0]).IsIdentifier :=
      .tuple (by simp [Value.IsIdentifier.null, Value.IsIdentifier.int])
    have hdict : (Value.dict [("y", .tuple [.null, .int 0]),
        ("x", .float (.finite pointedTwo))]).IsIdentifier :=
      .dict (by decide) (by simp [Value.IsIdentifier.float, hfirst])
    exact .tuple (by simp [Value.IsIdentifier.int, hdict])
  have hsame : nested.Same respelled := by decide +kernel
  have htwo : two.Same (.int 2) := by decide +kernel
  have hcalls' : List.Forall₂ Call.Same calls calls' :=
    .cons (.append htwo.symm _) (.cons (.append hsame _) (.cons .freeze .nil))
  obtain ⟨htold, hbuilt⟩ := hcalls _ _ hcalls'
  exact ⟨hnested, hrespelled, (hequals _ _ hnested hrespelled).mp hsame, hkeys _ _ hsame,
    hstores empty _ _ hsame, hcalls', htold, hbuilt _ _ htwo, by decide +kernel, rfl⟩

end NeighborStore

end Vicinity
