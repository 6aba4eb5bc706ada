import Mathlib.Data.List.Chain
import Vicinity.Proofs.Index.Build

/-!
# The collisions of an index

A label that is given to an object collides if its owner so far is a different one. So the
collisions of a label are told by its owners alone (`LabelIndex.filter_collisionsFrom`) : there is
one for each change of the owner (`LabelIndex.passages`), and read in order they lead from the
first owner to the one whom the label belongs to in the end (`LabelIndex.LeadsThrough`), though
identifiers that mean the same may be spelled differently on the way. Owners are compared as values
(`Value.Equates`), so that one that is no number is different from itself; the identifiers of a
source are not of this kind where its collisions are to lead from one owner to the next.

Of all labels together, each naming of the source has at most one collision, and it has none if
it brings a new label or repeats a name of its own object (`LabelIndex.build_collisions`).
-/

namespace Vicinity

namespace LabelIndex

open ObjectRecord

/-! ## The owners of one label -/

/-- How often a label passes to a different owner. -/
def changes : List Value → Nat
  | i :: j :: rest => (if i.Equates j then 0 else 1) + changes (j :: rest)
  | _ => 0

/-- A collision for each time that a label passes to a different owner. -/
def passages (label : Value) : List Value → List Collision
  | i :: j :: rest => (if i.Equates j then [] else [⟨label, i, j⟩]) ++ passages label (j :: rest)
  | _ => []

theorem passages_append_singleton (label j : Value) :
    ∀ ids : List Value, passages label (ids ++ [j]) = passages label ids ++
      (ids.getLast?.bind fun i => if i.Equates j then none else some ⟨label, i, j⟩).toList
  | [] => rfl
  | [i] => by by_cases h : i.Equates j <;> simp [passages, h]
  | i :: k :: rest => by
    have ih := passages_append_singleton label j (k :: rest)
    rw [List.cons_append] at ih
    rw [List.cons_append, List.cons_append, passages, ih, passages, List.append_assoc,
      List.getLast?_cons_cons]

theorem pairwise_equates_cons_cons {i j : Value} {rest : List Value} :
    (i :: j :: rest).Pairwise Value.Equates ↔
      i.Equates j ∧ (j :: rest).Pairwise Value.Equates := by
  constructor
  · intro h
    obtain ⟨hi, hrest⟩ := List.pairwise_cons.mp h
    exact ⟨hi j List.mem_cons_self, hrest⟩
  · rintro ⟨hij, hrest⟩
    refine List.pairwise_cons.mpr ⟨fun k hk => ?_, hrest⟩
    rcases List.mem_cons.mp hk with rfl | hk
    · exact hij
    · exact hij.trans ((List.pairwise_cons.mp hrest).1 k hk)

/-- A label does not pass to a different owner if and only if all its owners are equal. -/
theorem passages_eq_nil_iff (label : Value) :
    ∀ ids : List Value, passages label ids = [] ↔ ids.Pairwise Value.Equates
  | [] => by simp [passages]
  | [i] => by simp [passages]
  | i :: j :: rest => by
    rw [pairwise_equates_cons_cons, ← passages_eq_nil_iff label (j :: rest), passages]
    by_cases h : i.Equates j <;> simp [h]

/-- The collisions of a label lead from its first owner to its present one : there are as many as
changes, each is one, it begins where the one before ends, and there are none only if all owners
are equal. -/
structure LeadsThrough (ids : List Value) (present : Option Value) (cs : List Collision) :
    Prop where
  length_eq : cs.length = changes ids
  ne : ∀ c ∈ cs, ¬ c.previousId.Equates c.id
  first : ∀ c ∈ cs.head?, ∃ i ∈ ids.head?, c.previousId.Equates i
  linked : cs.IsChain fun c d => c.id.Equates d.previousId
  last : ∀ c ∈ cs.getLast?, ∃ i ∈ present, c.id.Equates i
  eq_nil_iff : cs = [] ↔ ids.Pairwise Value.Equates

theorem leadsThrough_passages (label : Value) :
    ∀ ids : List Value, (∀ i ∈ ids, ¬ i.IsNaN) →
      LeadsThrough ids ids.getLast? (passages label ids)
  | [], _ => by constructor <;> simp [passages, changes]
  | [i], _ => by constructor <;> simp [passages, changes]
  | i :: j :: rest, hnan => by
    obtain ⟨hi, hlater⟩ := List.forall_mem_cons.mp hnan
    have hj : ¬ j.IsNaN := hlater j List.mem_cons_self
    have ih := leadsThrough_passages label (j :: rest) hlater
    have hnil := passages_eq_nil_iff label (i :: j :: rest)
    rw [passages] at hnil ⊢
    rw [List.getLast?_cons_cons]
    by_cases h : i.Equates j
    · rw [if_pos h, List.nil_append] at hnil ⊢
      refine ⟨?_, ih.ne, fun c hc => ?_, ih.linked, ih.last, hnil⟩
      · rw [changes, if_pos h, Nat.zero_add, ih.length_eq]
      · obtain ⟨k, hk, hs⟩ := ih.first c hc
        cases hk
        exact ⟨i, rfl, hs.trans h.symm⟩
    · rw [if_neg h, List.singleton_append] at hnil ⊢
      refine ⟨?_, List.forall_mem_cons.mpr ⟨h, ih.ne⟩, fun c hc => ?_, ?_, fun c hc => ?_, hnil⟩
      · rw [changes, if_neg h, List.length_cons, ih.length_eq, Nat.add_comm]
      · cases hc
        exact ⟨i, rfl, Value.equates_self hi⟩
      · refine List.isChain_cons.mpr ⟨fun d hd => ?_, ih.linked⟩
        obtain ⟨k, hk, hs⟩ := ih.first d hd
        cases hk
        exact hs.symm
      · -- either a later collision is the last one, or all later owners are equal
        rw [List.getLast?_cons] at hc
        cases hlast : (passages label (j :: rest)).getLast? with
        | some d =>
          rw [hlast] at hc
          cases hc
          exact ih.last _ hlast
        | none =>
          rw [hlast] at hc
          cases hc
          have hequal := ih.eq_nil_iff.mp (List.getLast?_eq_none_iff.mp hlast)
          have hmem : (j :: rest).getLast (List.cons_ne_nil _ _) ∈ j :: rest := List.getLast_mem _
          refine ⟨_, List.getLast?_eq_getLast_of_ne_nil (List.cons_ne_nil _ _), ?_⟩
          rcases List.mem_cons.mp hmem with hk | hrest
          · rw [hk]
            exact Value.equates_self hj
          · exact (List.pairwise_cons.mp hequal).1 _ hrest

/-! ## Runs of namings -/

/-- The collision of one more naming : the last owner of its label is a different one. -/
def collisionAfter (run : List (Value × Value)) (e : Value × Value) : Option Collision :=
  (owners run e.1).getLast?.bind fun previousId =>
    if previousId.Equates e.2 then none else some { label := e.1, previousId, id := e.2 }

/-- The collision of a naming at a position of a run. -/
def collisionAt (run : List (Value × Value)) (n : Nat) : Option Collision :=
  run[n]?.bind (collisionAfter (run.take n))

/-- Labels that are texts are given to objects whose identifiers are not null. -/
def IsPlain (run : List (Value × Value)) : Prop :=
  ∀ e ∈ run, (∃ s, e.1 = .text s) ∧ e.2 ≠ .null

variable {run : List (Value × Value)} {e : Value × Value}

theorem isPlain_append_singleton : IsPlain (run ++ [e]) ↔
    IsPlain run ∧ (∃ s, e.1 = .text s) ∧ e.2 ≠ .null := by
  rw [IsPlain, List.forall_mem_append, List.forall_mem_singleton]
  rfl

theorem owners_append (run more : List (Value × Value)) (label : Value) :
    owners (run ++ more) label = owners run label ++ owners more label := by
  simp only [owners, List.filter_append, List.map_append]

theorem getLast?_owners_bind (h : IsPlain run) (label : Value) :
    (owners run label).getLast?.bind Value.toOption = (owners run label).getLast? := by
  cases hlast : (owners run label).getLast? with
  | none => rfl
  | some id =>
    obtain ⟨e, he, rfl⟩ := List.mem_map.mp (List.mem_of_getLast? hlast)
    have hnull := (h e (List.mem_filter.mp he).1).2
    cases hid : e.2 <;> first | rfl | exact absurd hid hnull

/-- The owner that a label has is the last one. -/
theorem collision?_ofList (h : IsPlain run) (he : ∃ s, e.1 = .text s) :
    Indexing.collision? (.ofList run) e = collisionAfter run e := by
  obtain ⟨s, hs⟩ := he
  rw [Indexing.collision?, collisionAfter, hs, get?_ofList_text, getLast?_owners_bind h]

theorem collisionsFrom_append_singleton (h : IsPlain (run ++ [e])) :
    Indexing.collisionsFrom .empty (run ++ [e]) =
      Indexing.collisionsFrom .empty run ++ (collisionAfter run e).toList := by
  obtain ⟨hrun, he, -⟩ := isPlain_append_singleton.mp h
  rw [Indexing.collisionsFrom_append, ← collision?_ofList hrun he]
  exact congrArg _ (List.append_nil _)

/-- The collisions of a run are those of its namings, one after the other. -/
theorem collisionsFrom_eq (h : IsPlain run) :
    Indexing.collisionsFrom .empty run = (List.range run.length).filterMap (collisionAt run) := by
  induction run using List.reverseRecOn with
  | nil => rfl
  | append_singleton run e ih =>
    have hearlier : (List.range run.length).filterMap (collisionAt (run ++ [e])) =
        (List.range run.length).filterMap (collisionAt run) := by
      refine List.filterMap_congr fun n hn => ?_
      have hn : n < run.length := List.mem_range.mp hn
      rw [collisionAt, collisionAt, List.getElem?_append_left hn,
        List.take_append_of_le_length hn.le]
    have hlast : collisionAt (run ++ [e]) run.length = collisionAfter run e := by
      simp [collisionAt]
    rw [collisionsFrom_append_singleton h, ih (isPlain_append_singleton.mp h).1,
      List.length_append, List.length_singleton, List.range_succ, List.filterMap_append, hearlier,
      List.filterMap_cons, hlast]
    cases collisionAfter run e <;> rfl

/-- The collisions of a label are the passages between its owners. -/
theorem filter_collisionsFrom (h : IsPlain run) (label : Value) :
    (Indexing.collisionsFrom .empty run).filter (·.label = label) =
      passages label (owners run label) := by
  induction run using List.reverseRecOn with
  | nil => rfl
  | append_singleton run e ih =>
    rw [collisionsFrom_append_singleton h, List.filter_append,
      ih (isPlain_append_singleton.mp h).1, owners_append]
    by_cases he : e.1 = label
    · have howners : owners [e] label = [e.2] := by simp [owners, he]
      rw [howners, passages_append_singleton, collisionAfter, he]
      refine congrArg _ (List.filter_eq_self.mpr fun c hc => ?_)
      obtain ⟨i, -, hi⟩ := Option.bind_eq_some_iff.mp (Option.mem_toList.mp hc)
      split at hi
      · cases hi
      · cases hi
        exact decide_eq_true rfl
    · have howners : owners [e] label = [] := by simp [owners, he]
      rw [howners, List.append_nil]
      refine List.append_right_eq_self.mpr (List.filter_eq_nil_iff.mpr fun c hc => ?_)
      obtain ⟨i, -, hi⟩ := Option.bind_eq_some_iff.mp (Option.mem_toList.mp hc)
      split at hi
      · cases hi
      · cases hi
        simpa using he

/-- A naming that collides brings no new label. -/
theorem length_collisionsFrom_add_size_le (h : IsPlain run) :
    (Indexing.collisionsFrom .empty run).length + (OrderedMap.ofList run).keys.length ≤
      run.length := by
  induction run using List.reverseRecOn with
  | nil => exact Nat.le_refl 0
  | append_singleton run e ih =>
    obtain ⟨hrun, ⟨s, hs⟩, -⟩ := isPlain_append_singleton.mp h
    have hle := ih hrun
    rw [collisionsFrom_append_singleton h, OrderedMap.ofList_append_singleton, OrderedMap.insert,
      OrderedMap.keys_alter, hs, get?_ofList_text, collisionAfter, hs]
    cases (owners run (.text s)).getLast? with
    | none =>
      simp only [Option.bind_none, Option.toList_none, List.append_nil, Option.isSome_none,
        Bool.false_eq_true, if_false, List.length_append, List.length_singleton]
      omega
    | some i =>
      by_cases hi : i.Equates e.2 <;> simp [hi] <;> omega

/-- A name that an object has given to it once more is no collision. -/
theorem collisionAfter_of_mem (run : List (Value × Value)) {names : List Value} {name : Value}
    {id : Value} (hid : ¬ id.IsNaN) (h : name ∈ names) :
    collisionAfter (run ++ names.map fun n => (n, id)) (name, id) = none := by
  have hown : owners (names.map fun n => (n, id)) name =
      List.replicate (names.filter (· = name)).length id := by
    rw [owners, List.filter_map, List.map_map]
    exact List.map_const'
  have hlength : (names.filter (· = name)).length ≠ 0 :=
    (List.length_pos_of_mem (List.mem_filter.mpr ⟨h, decide_eq_true rfl⟩)).ne'
  rw [collisionAfter, owners_append, hown, List.getLast?_append, List.getLast?_replicate,
    if_neg hlength]
  exact if_pos (Value.equates_self hid)

/-! ## Built indexes -/

theorem exists_of_mem_owners_namings {records : List ObjectRecord} {label i : Value}
    (h : i ∈ owners (namings records) label) : ∃ r ∈ records, r.id = i := by
  obtain ⟨e, he, rfl⟩ := List.mem_map.mp h
  obtain ⟨r, hr, he⟩ := List.mem_flatMap.mp (List.mem_filter.mp he).1
  obtain ⟨name, -, rfl⟩ := List.mem_map.mp he
  exact ⟨r, hr, rfl⟩

theorem isPlain_namings {records : List ObjectRecord} (htexts : AreTexts records)
    (hids : ∀ r ∈ records, r.id ≠ .null) : IsPlain (namings records) := by
  intro e he
  refine ⟨exists_text_of_mem_namings htexts he, ?_⟩
  obtain ⟨r, hr, he⟩ := List.mem_flatMap.mp he
  obtain ⟨name, -, rfl⟩ := List.mem_map.mp he
  exact hids r hr

/-- The collisions of an index that is built of objects whose identifiers are neither null nor a
number that is none.

- They are those of its namings, in their order.
- Those of one label lead from its first owner to the object that it is resolved to.
- Together with the labels they are at most as many as the namings.
- An object that has a name more than once makes no collision when it repeats it. -/
theorem build_collisions [Platform] {items : List SourceItem} {records : List ObjectRecord}
    (warn : Bool) (hitems : List.Forall₂ (fun item r => item.coerce = .ok r) items records)
    (htexts : AreTexts records) (hids : ∀ r ∈ records, r.id ≠ .null)
    (hnan : ∀ r ∈ records, ¬ r.id.IsNaN)
    (htold : Collision.CanBeTold warn (Indexing.collisionsFrom .empty (namings records))) :
    ∃ index, (build items warn).result = .ok index ∧
      index.collisions =
        (List.range (namings records).length).filterMap (collisionAt (namings records)) ∧
      (∀ s : String, LeadsThrough (owners (namings records) (.text s)) (index.resolve? s)
        (index.collisions.filter (·.label = .text s))) ∧
      index.collisions.length + index.size ≤ (namings records).length ∧
      ∀ front r back names name rest, records = front ++ r :: back →
        r.names = names ++ name :: rest → name ∈ names →
        collisionAt (namings records) ((namings front).length + names.length) = none := by
  have hplain := isPlain_namings htexts hids
  refine ⟨_, result_build warn hitems htexts htold, collisionsFrom_eq hplain, fun s => ?label,
    ?size, ?repeated⟩
  case label =>
    rw [resolve?, get?_ofList_text, getLast?_owners_bind hplain, filter_collisionsFrom hplain]
    refine leadsThrough_passages _ _ fun i hi => ?_
    obtain ⟨r, hr, rfl⟩ := exists_of_mem_owners_namings hi
    exact hnan r hr
  case size =>
    have hle := length_collisionsFrom_add_size_le hplain
    rwa [OrderedMap.keys, List.length_map] at hle
  case repeated =>
    rintro front r back names name rest rfl hnames hname
    have hrun : namings (front ++ r :: back) =
        (namings front ++ names.map fun n => (n, r.id)) ++
          ((name, r.id) :: ((rest.map fun n => (n, r.id)) ++ namings back)) := by
      simp [namings, hnames]
    have hlength : (namings front).length + names.length =
        (namings front ++ names.map fun n => (n, r.id)).length := by simp
    rw [collisionAt, hrun, hlength, List.take_left, List.getElem?_append_right (Nat.le_refl _),
      Nat.sub_self]
    exact collisionAfter_of_mem _ (hnan r (by simp)) hname

/-- Objects that share labels, the first two of them with the same identifier; the first one has
its external identifier as a label as well. -/
def sharedItems : List SourceItem :=
  [.record ⟨.int 1, [.text "a", .text "b"], some (.text "a")⟩,
    .loose (.tuple [.bool true, .text "a"]), .loose (.tuple [.int 2, .text "a", .text "b"]),
    .record ⟨.int 1, [.text "a"], none⟩]

/-- The objects. -/
def sharedRecords : List ObjectRecord :=
  [⟨.int 1, [.text "a", .text "b"], some (.text "a")⟩, ⟨.bool true, [.text "a"], none⟩,
    ⟨.int 2, [.text "a"], some (.text "b")⟩, ⟨.int 1, [.text "a"], none⟩]

theorem build_collisions_shared :
    List.Forall₂ (fun item r => item.coerce = .ok r) sharedItems sharedRecords ∧
      AreTexts sharedRecords ∧ (∀ r ∈ sharedRecords, r.id ≠ .null) ∧
      (∀ r ∈ sharedRecords, ¬ r.id.IsNaN) ∧
      Collision.CanBeTold true (Indexing.collisionsFrom .empty (namings sharedRecords)) ∧
      ∃ index, (build sharedItems true).result = .ok index ∧
        index.collisions = [⟨.text "b", .int 1, .int 2⟩, ⟨.text "a", .bool true, .int 2⟩,
          ⟨.text "a", .int 2, .int 1⟩] ∧
        LeadsThrough [.int 1, .int 1, .bool true, .int 2, .int 1] (index.resolve? "a")
          [⟨.text "a", .bool true, .int 2⟩, ⟨.text "a", .int 2, .int 1⟩] ∧
        collisionAt (namings sharedRecords) 1 = none := by
  have hitems : List.Forall₂ (fun item r => item.coerce = .ok r) sharedItems sharedRecords :=
    .cons rfl (.cons rfl (.cons rfl (.cons rfl .nil)))
  have htexts : AreTexts sharedRecords := by
    simp [AreTexts, sharedRecords, names, or_imp, forall_and]
  have hids : ∀ r ∈ sharedRecords, r.id ≠ .null := by simp [sharedRecords]
  have hnan : ∀ r ∈ sharedRecords, ¬ r.id.IsNaN := by decide +kernel
  have htold : Collision.CanBeTold true
      (Indexing.collisionsFrom .empty (namings sharedRecords)) := by decide +kernel
  obtain ⟨index, hbuild, hcollisions, hleads, -, hrepeated⟩ :=
    build_collisions true hitems htexts hids hnan htold
  have hall : (List.range (namings sharedRecords).length).filterMap
      (collisionAt (namings sharedRecords)) = [⟨.text "b", .int 1, .int 2⟩,
        ⟨.text "a", .bool true, .int 2⟩, ⟨.text "a", .int 2, .int 1⟩] := by decide +kernel
  have hown : owners (namings sharedRecords) (.text "a") =
      [.int 1, .int 1, .bool true, .int 2, .int 1] := by decide +kernel
  have ha := hleads "a"
  rw [hown, hcollisions, hall] at ha
  exact ⟨hitems, htexts, hids, hnan, htold, index, hbuild, hcollisions.trans hall, ha,
    hrepeated [] _ _ [.text "a"] (.text "a") [.text "b"] rfl rfl List.mem_cons_self⟩

end LabelIndex

end Vicinity
