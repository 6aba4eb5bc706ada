import Vicinity.Proofs.Store.Lookup

/-!
# Stores that are being built

A store is built by calls : appends, which are refused if their subject cannot be a key, and
freezes, which give the store as it stands (`NeighborStore.answer`). The appends that are not
refused are all that comes to the store (`NeighborStore.fst_answers`). What it is then asked is
answered by what was appended under subjects that mean the same (`NeighborStore.Represents`), so the
spelling of subjects makes no difference to it (`NeighborStore.Agrees.answers`).
-/

namespace Vicinity

namespace NeighborStore

/-! ## What appends come to -/

/-- The neighbors that appends give to `x`. -/
def neighborsOf (run : List (Value × List Value)) (x : Value) : List Value :=
  (run.filter fun a => a.1.Same x).flatMap Prod.snd

/-- A store that answers by what was appended to it, in every form in which it is asked. -/
structure Represents (store : NeighborStore) (run : List (Value × List Value)) : Prop where
  /-- Subjects stand where they came first, as they were spelled there. -/
  toList : store.toList = (Value.firsts (run.map Prod.fst)).map fun k => (k, neighborsOf run k)
  distinct : store.entries.keys.Pairwise fun a b => ¬ a.Same b
  size : store.size = (Value.firsts (run.map Prod.fst)).length
  pairCount : store.pairCount = (run.flatMap Prod.snd).length
  present : ∀ x, x.isHashable → (∃ a ∈ run, a.1.Same x) →
    store.get x = .ok (some (neighborsOf run x)) ∧ store.contains x = .ok true ∧
      store.getEntry x = .ok (neighborsOf run x) ∧ ∃ k ∈ store.entries.keys, k.Same x
  absent : ∀ x, x.isHashable → (∀ a ∈ run, ¬ a.1.Same x) →
    store.get x = .ok none ∧ store.contains x = .ok false ∧
      store.getEntry x = .error (.missing x) ∧ ∀ k ∈ store.entries.keys, ¬ k.Same x
  unhashable : ∀ x, x.isHashable = false →
    store.get x = .error .unhashable ∧ store.contains x = .error .unhashable ∧
      store.getEntry x = .error .unhashable

theorem toList_ofAppends_eq_map (run : List (Value × List Value)) :
    (ofAppends run).toList =
      (Value.firsts (run.map Prod.fst)).map fun k => (k, neighborsOf run k) := by
  rw [toList, OrderedMap.toList_eq_filterMap, keys_ofAppends]
  refine List.filterMap_eq_map_iff_forall_eq_some.mpr fun k hk => ?_
  obtain ⟨a, ha, rfl⟩ := List.mem_map.mp (Value.mem_of_mem_firsts hk)
  rw [get?_ofAppends, if_pos ⟨a, ha, .refl a.1⟩]
  rfl

theorem represents_ofAppends (run : List (Value × List Value)) :
    (ofAppends run).Represents run := by
  have hkeys (x : Value) :
      (∃ k ∈ (ofAppends run).entries.keys, k.Same x) ↔ ∃ a ∈ run, a.1.Same x := by
    rw [keys_ofAppends, Value.exists_mem_firsts_iff]
    simp
  refine ⟨toList_ofAppends_eq_map run, OrderedMap.pairwise_keys _, ?size, pairCount_ofAppends run,
    fun x hx hmem => ?present, fun x hx hnone => ?absent, fun x => answers_of_not_isHashable _⟩
  case size => rw [size_eq_length_keys, keys_ofAppends]
  case present =>
    have hvalue : (ofAppends run).entries.get? x = some (neighborsOf run x) := by
      rw [get?_ofAppends, if_pos hmem, neighborsOf]
    obtain ⟨hget, hcontains, hentry⟩ := answers_of_some _ hx hvalue
    exact ⟨hget, hcontains, hentry, (hkeys x).mpr hmem⟩
  case absent =>
    have hmem : ¬ ∃ a ∈ run, a.1.Same x := fun ⟨a, ha, hsame⟩ => hnone a ha hsame
    have hvalue : (ofAppends run).entries.get? x = none := by rw [get?_ofAppends, if_neg hmem]
    obtain ⟨hget, hcontains, hentry⟩ := answers_of_none _ hx hvalue
    exact ⟨hget, hcontains, hentry, fun k hk hsame => hmem ((hkeys x).mp ⟨k, hk, hsame⟩)⟩

/-! ## Calls -/

/-- What is asked of a store while it is built. -/
inductive Call where
  | append (subject : Value) (neighbors : List Value)
  | freeze

/-- What a call appends. -/
def Call.appended? : Call → Option (Value × List Value)
  | .append subject neighbors => if subject.isHashable then some (subject, neighbors) else none
  | .freeze => none

/-- Both calls are the same, but for the spelling of the subject. -/
inductive Call.Same : Call → Call → Prop
  | append {subject subject' : Value} (h : subject.Same subject') (neighbors : List Value) :
    Same (.append subject neighbors) (.append subject' neighbors)
  | freeze : Same .freeze .freeze

/-- Answer a call. An append that is refused leaves the store alone, and a freeze gives it. -/
def answer (s : NeighborStore) : Call → NeighborStore × Except KeyFault (Option NeighborStore)
  | .append subject neighbors =>
    match s.append? subject neighbors with
    | some s' => (s', .ok none)
    | none => (s, .error .unhashable)
  | .freeze => (s, .ok (some s))

/-- Answer calls one after the other. -/
def answers (s : NeighborStore) :
    List Call → NeighborStore × List (Except KeyFault (Option NeighborStore))
  | [] => (s, [])
  | c :: rest =>
    (((s.answer c).1.answers rest).1, (s.answer c).2 :: ((s.answer c).1.answers rest).2)

variable (s : NeighborStore)

theorem answer_append_of_not_isHashable {subject : Value} (neighbors : List Value)
    (h : subject.isHashable = false) :
    s.answer (.append subject neighbors) = (s, .error .unhashable) := by
  simp [answer, append?, h]

/-- A call appends what it appends, and does nothing else to the store. -/
theorem fst_answer (c : Call) : (s.answer c).1 = c.appended?.elim s s.append := by
  cases c with
  | freeze => rfl
  | append subject neighbors =>
    by_cases hkey : subject.isHashable
    · simp [answer, Call.appended?, append?_of_isHashable s neighbors hkey, hkey]
    · simp [answer, Call.appended?, append?, hkey]

/-- Calls append what they append, one after the other. -/
theorem fst_answers (calls : List Call) :
    (s.answers calls).1 = (calls.filterMap Call.appended?).foldl append s := by
  induction calls generalizing s with
  | nil => rfl
  | cons c rest ih =>
    rw [answers, ih, fst_answer, List.filterMap_cons]
    cases c.appended? <;> rfl

theorem represents_answers (calls : List Call) :
    (empty.answers calls).1.Represents (calls.filterMap Call.appended?) := by
  rw [fst_answers]
  exact represents_ofAppends _

/-- A call is answered by what the calls before it made of the store, whatever comes after it. -/
theorem getElem?_answers (front : List Call) (c : Call) (rest : List Call) :
    (s.answers (front ++ c :: rest)).2[front.length]? =
      some ((s.answers front).1.answer c).2 := by
  induction front generalizing s with
  | nil => rfl
  | cons d front ih => exact ih (s.answer d).1

/-! ## Spellings in calls -/

/-- Both stores answer the same for every identifier. -/
def Agrees (s t : NeighborStore) : Prop := ∀ x, s.entries.get? x = t.entries.get? x

namespace Agrees

variable {s t : NeighborStore} (h : s.Agrees t)
include h

theorem append {subject subject' : Value} (hsame : subject.Same subject')
    (neighbors : List Value) :
    (s.append (subject, neighbors)).Agrees (t.append (subject', neighbors)) := by
  intro x
  have hiff : subject.Same x ↔ subject'.Same x := ⟨hsame.symm.trans, hsame.trans⟩
  rw [get?_append, get?_append, h x, if_congr hiff rfl rfl]

/-- Calls with other spellings keep the stores to each other. -/
theorem answer {c c' : Call} (hc : c.Same c') : (s.answer c).1.Agrees (t.answer c').1 := by
  rw [fst_answer, fst_answer]
  cases hc with
  | freeze => exact h
  | append hsame neighbors =>
    rw [Call.appended?, Call.appended?, ← Value.isHashable_eq_of_same hsame]
    split
    · exact h.append hsame neighbors
    · exact h

theorem answers {calls calls' : List Call} (hcalls : List.Forall₂ Call.Same calls calls') :
    (s.answers calls).1.Agrees (t.answers calls').1 := by
  induction hcalls generalizing s t with
  | nil => exact h
  | cons hc _ ih => exact ih (h.answer hc)

theorem get {x x' : Value} (hx : x.Same x') : s.get x = t.get x' := by
  rw [s.get_congr hx, NeighborStore.get, NeighborStore.get, h x']

theorem contains {x x' : Value} (hx : x.Same x') : s.contains x = t.contains x' := by
  rw [NeighborStore.contains, NeighborStore.contains, h.get hx]

theorem size : s.size = t.size :=
  Nat.le_antisymm (size_le_of_get? fun x hx => h x ▸ hx) (size_le_of_get? fun x hx => h x ▸ hx)

end Agrees

/-! ## Whole builds -/

/-- A store is built by calls, beginning with the empty one. An append is refused if its subject
cannot be a key, and then leaves the store as it was. A freeze gives the store of the appends before
it, whatever comes later. After any number of calls the store is that of the appends that were not
refused. With other spellings of the same subjects it has the same subjects with the same
neighbors, whichever spelling is asked for. The floating-point value that is no number is one
subject, as for `Value.Same`. -/
theorem answers_represents (calls : List Call) :
    let store := (empty.answers calls).1
    let told := (empty.answers calls).2
    store.Represents (calls.filterMap Call.appended?) ∧
      (∀ front subject neighbors rest, calls = front ++ .append subject neighbors :: rest →
        (subject.isHashable → told[front.length]? = some (.ok none)) ∧
        (subject.isHashable = false → told[front.length]? = some (.error .unhashable) ∧
          (empty.answers (front ++ [.append subject neighbors])).1 = (empty.answers front).1)) ∧
      (∀ front rest, calls = front ++ .freeze :: rest → ∃ frozen : NeighborStore,
        told[front.length]? = some (.ok (some frozen)) ∧
          frozen.Represents (front.filterMap Call.appended?)) ∧
      ∀ calls', List.Forall₂ Call.Same calls calls' →
        let store' := (empty.answers calls').1
        store.size = store'.size ∧ ∀ x x', x.Same x' →
          store.contains x = store'.contains x' ∧ store.get x = store'.get x' := by
  refine ⟨represents_answers calls, fun front subject neighbors rest hcalls => ⟨fun hkey => ?given,
    fun hkey => ⟨?refused, ?unchanged⟩⟩, fun front rest hcalls => ?frozen,
    fun calls' hcalls => ?spelled⟩
  case given =>
    rw [hcalls, getElem?_answers, answer, append?_of_isHashable _ neighbors hkey]
  case refused =>
    rw [hcalls, getElem?_answers, answer_append_of_not_isHashable _ neighbors hkey]
  case unchanged =>
    rw [fst_answers, fst_answers, List.filterMap_append]
    simp [Call.appended?, hkey]
  case frozen =>
    rw [hcalls, getElem?_answers]
    exact ⟨_, rfl, represents_answers front⟩
  case spelled =>
    have hagrees : Agrees (empty.answers calls).1 (empty.answers calls').1 :=
      Agrees.answers (fun _ => rfl) hcalls
    exact ⟨hagrees.size, fun x x' hx => ⟨hagrees.contains hx, hagrees.get hx⟩⟩

/-- The whole number one, spelled with a point. -/
def pointedOne : Value := .float (Binary64.ofScientific false 10 (-1))

/-- Appends to one subject in two spellings, with a freeze between them, to a list, which cannot be
a key, and to a tuple. -/
def spelledCalls : List Call :=
  [.append (.int 1) [.text "b"], .freeze, .append (.list []) [.text "c"],
    .append (.bool true) [.text "d", .text "b"], .append (.tuple [pointedOne, .null]) []]

/-- The same calls, in which all subjects are spelled in another way. -/
def respelledCalls : List Call :=
  [.append pointedOne [.text "b"], .freeze, .append (.list []) [.text "c"],
    .append (.int 1) [.text "d", .text "b"], .append (.tuple [.bool true, .null]) []]

theorem answers_represents_spelled :
    Value.isHashable (.int 1) ∧ Value.isHashable (.list []) = false ∧
      List.Forall₂ Call.Same spelledCalls respelledCalls ∧ pointedOne.Same (.bool true) ∧
      let store := (empty.answers spelledCalls).1
      let told := (empty.answers spelledCalls).2
      store.entries.keys = [.int 1, .tuple [pointedOne, .null]] ∧
        store.get pointedOne = .ok (some [.text "b", .text "d", .text "b"]) ∧
        told[0]? = some (.ok none) ∧ told[2]? = some (.error .unhashable) ∧
        (∃ frozen : NeighborStore, told[1]? = some (.ok (some frozen)) ∧
          frozen.get pointedOne = .ok (some [.text "b"])) ∧
        store.get pointedOne = (empty.answers respelledCalls).1.get (.bool true) := by
  have hcalls : List.Forall₂ Call.Same spelledCalls respelledCalls :=
    .cons (.append (by decide +kernel) _) (.cons .freeze (.cons (.append (.refl _) _)
      (.cons (.append (by decide) _) (.cons (.append (by decide +kernel) _) .nil))))
  have hsame : pointedOne.Same (.bool true) := by decide +kernel
  obtain ⟨hstore, happends, hfreezes, hspelled⟩ := answers_represents spelledCalls
  obtain ⟨frozen, hfrozen, hbefore⟩ := hfreezes [_] _ rfl
  have hkeys := congrArg (List.map Prod.fst) hstore.toList
  exact ⟨rfl, rfl, hcalls, hsame, hkeys.trans (by decide +kernel),
    (hstore.present pointedOne rfl (by decide +kernel)).1.trans (by decide +kernel),
    (happends [] _ _ _ rfl).1 rfl, ((happends [_, _] _ _ _ rfl).2 rfl).1,
    ⟨frozen, hfrozen, (hbefore.present pointedOne rfl (by decide +kernel)).1.trans
      (by decide +kernel)⟩, ((hspelled respelledCalls hcalls).2 _ _ hsame).2⟩

end NeighborStore

end Vicinity
