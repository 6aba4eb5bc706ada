import Vicinity.Value.Same

/-!
# Maps in order of insertion

An `OrderedMap` holds one entry per key, in the order in which the keys came. Keys are the same
when they mean the same (`Value.Same`) : storing under a key that is there keeps the first
spelling and its position and takes the new value. That keys are pairwise different is part of
the type (`OrderedMap.distinct`), and `OrderedMap.alter` is the one operation that adds entries,
so `get?_alter` says all there is to say about lookups after a change.

The map does not ask whether a value may serve as a key; who stores under foreign values asks
`Value.isHashable` first.
-/

namespace Vicinity

/-- Entries in order of insertion, one per key. -/
structure OrderedMap (β : Type) where
  toList : List (Value × β)
  distinct : toList.Pairwise fun a b => ¬ a.1.Same b.1

namespace OrderedMap

variable {β : Type}

/-! ## Entries -/

/-- Change the value of a key where it stands, or add the key at the end. -/
def alterEntries (k : Value) (f : Option β → β) : List (Value × β) → List (Value × β)
  | [] => [(k, f none)]
  | (k', v) :: rest =>
    if k'.Same k then (k', f (some v)) :: rest else (k', v) :: alterEntries k f rest

/-- Every key of the changed entries was there, or is the new one. -/
theorem fst_mem_alterEntries {k : Value} {f : Option β → β} :
    ∀ {entries : List (Value × β)} {e : Value × β}, e ∈ alterEntries k f entries →
      (∃ e' ∈ entries, e'.1 = e.1) ∨ e.1 = k
  | [], e, h => by
    rw [alterEntries, List.mem_singleton] at h
    exact Or.inr (by rw [h])
  | (k', v) :: rest, e, h => by
    rw [alterEntries] at h
    split at h
    · rcases List.mem_cons.mp h with rfl | h
      · exact Or.inl ⟨(k', v), List.mem_cons_self, rfl⟩
      · exact Or.inl ⟨e, List.mem_cons_of_mem _ h, rfl⟩
    · rcases List.mem_cons.mp h with rfl | h
      · exact Or.inl ⟨(k', v), List.mem_cons_self, rfl⟩
      · rcases fst_mem_alterEntries h with ⟨e', he', heq⟩ | heq
        · exact Or.inl ⟨e', List.mem_cons_of_mem _ he', heq⟩
        · exact Or.inr heq

theorem distinct_alterEntries {k : Value} {f : Option β → β} :
    ∀ {entries : List (Value × β)}, (entries.Pairwise fun a b => ¬ a.1.Same b.1) →
      (alterEntries k f entries).Pairwise fun a b => ¬ a.1.Same b.1
  | [], _ => by simp [alterEntries]
  | (k', v) :: rest, h => by
    rw [List.pairwise_cons] at h
    rw [alterEntries]
    split
    · exact List.pairwise_cons.mpr h
    · rename_i hne
      refine List.pairwise_cons.mpr ⟨fun e he => ?_, distinct_alterEntries h.2⟩
      rcases fst_mem_alterEntries he with ⟨e', he', heq⟩ | heq
      · rw [← heq]
        exact h.1 e' he'
      · rw [heq]
        exact hne

/-! ## Operations -/

/-- No entries. -/
def empty : OrderedMap β := ⟨[], List.Pairwise.nil⟩

instance : Inhabited (OrderedMap β) := ⟨empty⟩

/-- The value stored under a key. -/
def get? (m : OrderedMap β) (k : Value) : Option β :=
  (m.toList.find? fun e => decide (e.1.Same k)).map Prod.snd

/-- Whether a key is there. -/
def contains (m : OrderedMap β) (k : Value) : Bool := (m.get? k).isSome

/-- Change the value of a key where it stands, or add the key at the end. -/
def alter (m : OrderedMap β) (k : Value) (f : Option β → β) : OrderedMap β :=
  ⟨alterEntries k f m.toList, distinct_alterEntries m.distinct⟩

/-- Store a value under a key. -/
def insert (m : OrderedMap β) (k : Value) (v : β) : OrderedMap β := m.alter k fun _ => v

/-- Store values under keys, one after the other. -/
def ofList (entries : List (Value × β)) : OrderedMap β :=
  entries.foldl (fun m e => m.insert e.1 e.2) empty

/-- The keys in order, spelled as they first came. -/
def keys (m : OrderedMap β) : List Value := m.toList.map Prod.fst

/-- The values in the order of their keys. -/
def values (m : OrderedMap β) : List β := m.toList.map Prod.snd

/-- The number of keys. -/
def size (m : OrderedMap β) : Nat := m.toList.length

/-! ## Lookups -/

@[simp]
theorem toList_empty : (empty : OrderedMap β).toList = [] := rfl

@[simp]
theorem get?_empty (k : Value) : (empty : OrderedMap β).get? k = none := rfl

@[simp]
theorem toList_alter (m : OrderedMap β) (k : Value) (f : Option β → β) :
    (m.alter k f).toList = alterEntries k f m.toList := rfl

/-- Keys that mean the same are answered the same. -/
theorem get?_congr (m : OrderedMap β) {k k' : Value} (h : k.Same k') : m.get? k = m.get? k' := by
  have heq : (fun e : Value × β => decide (e.1.Same k)) = fun e => decide (e.1.Same k') := by
    funext e
    exact decide_eq_decide.mpr ⟨fun he => he.trans h, fun he => he.trans h.symm⟩
  simp only [get?, heq]

theorem find?_alterEntries (k : Value) (f : Option β → β) (x : Value) :
    ∀ entries : List (Value × β),
      ((alterEntries k f entries).find? fun e => decide (e.1.Same x)).map Prod.snd =
        if k.Same x then some (f ((entries.find? fun e => decide (e.1.Same k)).map Prod.snd))
        else (entries.find? fun e => decide (e.1.Same x)).map Prod.snd
  | [] => by by_cases h : k.Same x <;> simp [alterEntries, h]
  | (k', v) :: rest => by
    have ih := find?_alterEntries k f x rest
    by_cases hk : k'.Same k
    · have hx : k'.Same x ↔ k.Same x := ⟨fun h => hk.symm.trans h, fun h => hk.trans h⟩
      by_cases h : k.Same x <;> simp [alterEntries, hk, hx, h]
    · by_cases hx : k'.Same x
      · have h : ¬ k.Same x := fun h => hk (hx.trans h.symm)
        simp [alterEntries, hk, hx, h]
      · simp [alterEntries, hk, hx, ih]

/-- After a change the key has its new value and all others what they had. -/
theorem get?_alter (m : OrderedMap β) (k : Value) (f : Option β → β) (x : Value) :
    (m.alter k f).get? x = if k.Same x then some (f (m.get? k)) else m.get? x :=
  find?_alterEntries k f x m.toList

end OrderedMap

end Vicinity
