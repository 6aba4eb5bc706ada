import Vicinity.LabelIndex
import Vicinity.Proofs.Appends

/-!
# What an index is built of

The objects of a source have names, and building an index gives these names to their objects one
after the other (`ObjectRecord.namings`). A source whose items are objects with names that can be
keys is indexed to its end, and the index is that of this run of namings
(`Indexing.items_of_records`). So a label belongs to its last owner, and the labels stand where
they came first (`LabelIndex.build_lookups`).

All this is so as long as the collisions that are to be told can be told, that is, if the values
that they are about can be written (`Collision.CanBeTold`).
-/

namespace Vicinity

/-! ## Maps of entries -/

namespace OrderedMap

variable {β : Type}

theorem ofList_append_singleton (run : List (Value × β)) (e : Value × β) :
    ofList (run ++ [e]) = (ofList run).insert e.1 e.2 := by
  rw [ofList, List.foldl_append]
  rfl

/-- A key has the value that was last stored under one that means the same. -/
theorem get?_ofList (run : List (Value × β)) (x : Value) :
    (ofList run).get? x = ((run.filter fun e => e.1.Same x).map Prod.snd).getLast? := by
  induction run using List.reverseRecOn with
  | nil => rfl
  | append_singleton run e ih =>
    rw [ofList_append_singleton, insert, get?_alter, ih, List.filter_append, List.map_append]
    by_cases hx : e.1.Same x <;> simp [hx]

theorem keys_ofList (run : List (Value × β)) :
    (ofList run).keys = Value.firsts (run.map Prod.fst) :=
  keys_foldl_alter Prod.fst (fun e _ => e.2) run

/-- Entries under different keys are the entries of their map. -/
theorem toList_ofList {run : List (Value × β)} (h : run.Pairwise fun a b => ¬ a.1.Same b.1) :
    (ofList run).toList = run := by
  induction run using List.reverseRecOn with
  | nil => rfl
  | append_singleton run e ih =>
    obtain ⟨hrun, -, hlast⟩ := List.pairwise_append.mp h
    rw [ofList_append_singleton, insert, toList_alter, ih hrun,
      alterEntries_of_absent fun a ha => hlast a ha e List.mem_cons_self]

end OrderedMap

/-! ## Texts as keys -/

namespace Value

/-- Nothing but a text means the same as this text. -/
theorem same_text_iff {v : Value} {s : String} : v.Same (.text s) ↔ v = .text s := by
  cases v with
  | float x =>
    simp only [Same, canonical]
    split <;> simp
  | _ => simp [Same, canonical]

theorem firsts_of_texts {ks : List Value} (h : ∀ k ∈ ks, ∃ s, k = .text s) :
    firsts ks = ks.eraseDups := by
  induction ks using List.reverseRecOn with
  | nil => rfl
  | append_singleton ks k ih =>
    obtain ⟨s, rfl⟩ := h k (List.mem_append_right _ List.mem_cons_self)
    have hmem : (∃ j ∈ ks, j.Same (.text s)) ↔ .text s ∈ ks := by simp [same_text_iff]
    rw [firsts_append_singleton, ih fun j hj => h j (List.mem_append_left _ hj),
      List.eraseDups_append, if_congr hmem rfl rfl]
    by_cases hs : .text s ∈ ks <;> simp [hs, List.removeAll, List.eraseDups_cons]

end Value

/-! ## Runs of namings -/

namespace ObjectRecord

/-- The names of objects, one after the other, each with the identifier of its object. -/
def namings (records : List ObjectRecord) : List (Value × Value) :=
  records.flatMap fun r => r.names.map fun name => (name, r.id)

/-- The names of all objects are texts. -/
def AreTexts (records : List ObjectRecord) : Prop :=
  ∀ r ∈ records, ∀ name ∈ r.names, ∃ s, name = .text s

theorem exists_text_of_mem_namings {records : List ObjectRecord} (h : AreTexts records)
    {e : Value × Value} (he : e ∈ namings records) : ∃ s, e.1 = .text s := by
  obtain ⟨r, hr, he⟩ := List.mem_flatMap.mp he
  obtain ⟨name, hname, rfl⟩ := List.mem_map.mp he
  exact h r hr name hname

end ObjectRecord

namespace LabelIndex

/-- The owners of a label in a run of namings, one after the other. -/
def owners (run : List (Value × Value)) (label : Value) : List Value :=
  (run.filter fun e => e.1 = label).map Prod.snd

theorem get?_ofList_text (run : List (Value × Value)) (s : String) :
    (OrderedMap.ofList run).get? (.text s) = (owners run (.text s)).getLast? := by
  simp only [OrderedMap.get?_ofList, owners, Value.same_text_iff]

end LabelIndex

/-! ## Giving names to objects -/

/-- What is told of collisions. -/
def Collision.told (warn : Bool) (cs : List Collision) : List Event :=
  if warn then cs.map .collided else []

theorem Collision.told_append (warn : Bool) (cs ds : List Collision) :
    told warn (cs ++ ds) = told warn cs ++ told warn ds := by
  unfold told
  split
  · exact List.map_append
  · rfl

/-- The wordings of collisions can be made if they are to be told. -/
def Collision.CanBeTold [Platform] (warn : Bool) (cs : List Collision) : Prop :=
  warn = true → ∀ c ∈ cs, c.fault? = none

instance [Platform] (warn : Bool) (cs : List Collision) : Decidable (Collision.CanBeTold warn cs) :=
  inferInstanceAs (Decidable (warn = true → _))

theorem Collision.canBeTold_append [Platform] {warn : Bool} {cs ds : List Collision} :
    CanBeTold warn (cs ++ ds) ↔ CanBeTold warn cs ∧ CanBeTold warn ds := by
  simp only [CanBeTold, List.forall_mem_append, forall_and]

namespace Indexing

variable {warn : Bool}

/-- The collision of a naming with the owner that the label has, unless that one is null. -/
def collision? (entries : OrderedMap Value) (e : Value × Value) : Option Collision :=
  ((entries.get? e.1).bind Value.toOption).bind fun previousId =>
    if previousId.Equates e.2 then none else some { label := e.1, previousId, id := e.2 }

/-- The collisions of a run of namings, with the labels that are there and with each other. -/
def collisionsFrom (entries : OrderedMap Value) : List (Value × Value) → List Collision
  | [] => []
  | e :: rest => (collision? entries e).toList ++ collisionsFrom (entries.insert e.1 e.2) rest

/-- The state after a run of namings. -/
def after (warn : Bool) (s : Indexing) (run : List (Value × Value)) : Indexing :=
  { s with
    entries := run.foldl (fun m e => m.insert e.1 e.2) s.entries
    collisions := s.collisions ++ collisionsFrom s.entries run
    events := s.events ++ Collision.told warn (collisionsFrom s.entries run) }

theorem collisionsFrom_append (entries : OrderedMap Value) (run more : List (Value × Value)) :
    collisionsFrom entries (run ++ more) = collisionsFrom entries run ++
      collisionsFrom (run.foldl (fun m e => m.insert e.1 e.2) entries) more := by
  induction run generalizing entries with
  | nil => rfl
  | cons e rest ih =>
    rw [List.cons_append, collisionsFrom, ih, collisionsFrom, List.append_assoc]
    rfl

theorem after_append (s : Indexing) (run more : List (Value × Value)) :
    s.after warn (run ++ more) = (s.after warn run).after warn more := by
  simp only [after, List.foldl_append, collisionsFrom_append, Collision.told_append,
    List.append_assoc]

theorem after_singleton (s : Indexing) (e : Value × Value) :
    s.after warn [e] =
      { s with
        entries := s.entries.insert e.1 e.2
        collisions := s.collisions ++ (collision? s.entries e).toList
        events := s.events ++ Collision.told warn (collision? s.entries e).toList } := by
  simp only [after, collisionsFrom, List.append_nil]
  rfl

section

variable [Platform]

/-- All there is to say about giving one label to an object, if its collision can be told. -/
theorem label_eq_ok {id label : Value} {s : Indexing}
    (h : Collision.CanBeTold warn (collision? s.entries (label, id)).toList) :
    s.label warn id label = .ok (s.after warn [(label, id)]) := by
  rw [after_singleton, Indexing.label]
  simp only [collision?] at h ⊢
  cases hget : s.entries.get? label with
  | none => simp [Collision.told]
  | some previousId =>
    by_cases hnull : previousId = .null
    · simp [hnull, Value.toOption, Collision.told]
    · by_cases heq : previousId.Equates id
      · simp [heq, Value.toOption, Collision.told]
      · have hc : warn = true →
            Collision.fault? { label, previousId, id } = none := by
          simpa [hget, heq, Value.toOption, Collision.CanBeTold] using h
        cases warn with
        | false => simp [heq, Value.toOption, Collision.told]
        | true => simp [heq, Value.toOption, Collision.told, hc rfl]

/-- A collision that cannot be told is remembered, but the label is not given. -/
theorem label_eq_error {id label : Value} {s : Indexing} {c : Collision} {f : Value.LiteralFault}
    (hc : collision? s.entries (label, id) = some c) (hf : c.fault? = some f) :
    s.label true id label =
      .error ({ s with collisions := s.collisions ++ [c] }, .unwritable f) := by
  rw [collision?] at hc
  obtain ⟨previousId, hprevious, hcollides⟩ := Option.bind_eq_some_iff.mp hc
  obtain ⟨v, hv, hnull⟩ := Option.bind_eq_some_iff.mp hprevious
  have hne : v ≠ .null := by
    rintro rfl
    cases hnull
  obtain rfl : v = previousId := by
    cases v <;> first | exact absurd rfl hne | exact Option.some.inj hnull
  split at hcollides
  · cases hcollides
  · rename_i heq
    cases hcollides
    have hget : s.entries.get? label = some v := hv
    rw [Indexing.label, hget]
    simp [heq, hf]

/-- Names that can be keys are given to their object. -/
theorem labels_of_isHashable (id : Value) {names : List Value} (s : Indexing)
    (h : ∀ name ∈ names, name.isHashable)
    (htold : Collision.CanBeTold warn
      (collisionsFrom s.entries (names.map fun name => (name, id)))) :
    labels warn id s names = .ok (s.after warn (names.map fun name => (name, id))) := by
  induction names generalizing s with
  | nil => simp [labels, after, collisionsFrom, Collision.told]
  | cons name rest ih =>
    obtain ⟨hname, hrest⟩ := List.forall_mem_cons.mp h
    obtain ⟨hfirst, hlater⟩ := Collision.canBeTold_append.mp htold
    rw [labels, if_pos hname, label_eq_ok hfirst]
    refine (ih _ hrest hlater).trans ?_
    rw [← after_append]
    rfl

/-- A source of objects whose names can be keys is indexed to its end. -/
theorem items_of_records {items : List SourceItem} {records : List ObjectRecord}
    (hitems : List.Forall₂ (fun item r => item.coerce = .ok r) items records)
    (hnames : ∀ r ∈ records, ∀ name ∈ r.names, name.isHashable) (s : Indexing)
    (htold : Collision.CanBeTold warn
      (collisionsFrom s.entries (ObjectRecord.namings records))) :
    Indexing.items warn s items =
      .ok { s.after warn (ObjectRecord.namings records) with
        objectCount := s.objectCount + items.length } := by
  induction hitems generalizing s with
  | nil => simp [Indexing.items, ObjectRecord.namings, after, collisionsFrom, Collision.told, pure,
      Except.pure]
  | @cons item r items records hitem _ ih =>
    obtain ⟨hr, hrest⟩ := List.forall_mem_cons.mp hnames
    have hnamings : ObjectRecord.namings (r :: records) =
        (r.names.map fun name => (name, r.id)) ++ ObjectRecord.namings records := List.flatMap_cons
    rw [hnamings, collisionsFrom_append] at htold
    obtain ⟨hfirst, hlater⟩ := Collision.canBeTold_append.mp htold
    have hstep : s.item warn item =
        .ok { s.after warn (r.names.map fun name => (name, r.id)) with
          objectCount := s.objectCount + 1 } := by
      rw [Indexing.item, hitem]
      exact labels_of_isHashable r.id _ hr hfirst
    rw [Indexing.items, List.foldlM_cons, hstep]
    refine (ih hrest _ hlater).trans ?_
    rw [hnamings, after_append, List.length_cons, Nat.add_comm items.length, ← Nat.add_assoc]
    rfl

end

end Indexing

/-! ## Built indexes -/

namespace LabelIndex

open ObjectRecord

section

variable [Platform] {items : List SourceItem} {records : List ObjectRecord} (warn : Bool)

/-- What a source of objects whose names are texts is indexed to. -/
theorem result_build (hitems : List.Forall₂ (fun item r => item.coerce = .ok r) items records)
    (htexts : AreTexts records)
    (htold : Collision.CanBeTold warn (Indexing.collisionsFrom .empty (namings records))) :
    (build items warn).result = .ok
      { entries := .ofList (namings records)
        objectCount := items.length
        collisions := Indexing.collisionsFrom .empty (namings records) } := by
  have hnames : ∀ r ∈ records, ∀ name ∈ r.names, name.isHashable := by
    intro r hr name hname
    obtain ⟨s, rfl⟩ := htexts r hr name hname
    rfl
  rw [build, Indexing.items_of_records hitems hnames _ htold]
  simp only [Nat.zero_add]
  rfl

/-- An index that is built of objects finds for each label the last object that has it, spelled
as its identifier is there, unless this identifier is null. Its labels are the names of the
objects, each of them once and in the order in which they came first, and it counts all objects,
those without names too. -/
theorem build_lookups (hitems : List.Forall₂ (fun item r => item.coerce = .ok r) items records)
    (htexts : AreTexts records)
    (htold : Collision.CanBeTold warn (Indexing.collisionsFrom .empty (namings records))) :
    ∃ index, (build items warn).result = .ok index ∧
      (∀ s : String,
        let last := (owners (namings records) (.text s)).getLast?
        index.entries.get? (.text s) = last ∧ index.resolve? s = last.bind Value.toOption ∧
        (index.entries.contains (.text s) = true ↔ ∃ e ∈ namings records, e.1 = .text s)) ∧
      index.entries.keys = ((namings records).map Prod.fst).eraseDups ∧
      index.size = ((namings records).map Prod.fst).eraseDups.length ∧
      index.objectCount = items.length := by
  have hkeys : (OrderedMap.ofList (namings records)).keys =
      ((namings records).map Prod.fst).eraseDups := by
    rw [OrderedMap.keys_ofList]
    refine Value.firsts_of_texts fun name hname => ?_
    obtain ⟨e, he, rfl⟩ := List.mem_map.mp hname
    exact exists_text_of_mem_namings htexts he
  refine ⟨_, result_build warn hitems htexts htold, fun s => ?lookups, hkeys, ?size, rfl⟩
  case lookups =>
    refine ⟨get?_ofList_text _ s, ?_, ?_⟩
    · rw [resolve?, get?_ofList_text]
    · rw [OrderedMap.contains, get?_ofList_text]
      simp [owners]
  case size =>
    rw [← hkeys, OrderedMap.keys, List.length_map]
    rfl

end

/-- Objects of every form : one with an external identifier and an empty label, a text that is
walked through, one whose identifier is null, and one without names. -/
def mixedItems : List SourceItem :=
  [.record ⟨.int 1, [.text "a", .text ""], some (.text "x")⟩, .loose (.text "cba"),
    .loose (.tuple [.null, .list [.text "b", .null, .text "n"]]),
    .loose (.list [.bool true, .null])]

/-- The objects. -/
def mixedRecords : List ObjectRecord :=
  [⟨.int 1, [.text "a", .text ""], some (.text "x")⟩, ⟨.text "c", [.text "b"], some (.text "a")⟩,
    ⟨.null, [.text "b", .text "n"], none⟩, ⟨.bool true, [], none⟩]

theorem build_lookups_mixed :
    List.Forall₂ (fun item r => item.coerce = .ok r) mixedItems mixedRecords ∧
      AreTexts mixedRecords ∧
      Collision.CanBeTold true (Indexing.collisionsFrom .empty (namings mixedRecords)) ∧
      ∃ index, (build mixedItems true).result = .ok index ∧
        index.resolve? "a" = some (.text "c") ∧ index.resolve? "b" = none ∧
        index.entries.contains (.text "b") = true ∧
        index.entries.keys = [.text "x", .text "a", .text "", .text "b", .text "n"] ∧
        index.objectCount = 4 := by
  have hitems : List.Forall₂ (fun item r => item.coerce = .ok r) mixedItems mixedRecords :=
    .cons rfl (.cons rfl (.cons rfl (.cons rfl .nil)))
  have htexts : AreTexts mixedRecords := by
    simp [AreTexts, mixedRecords, names, or_imp, forall_and]
  have htold : Collision.CanBeTold true
      (Indexing.collisionsFrom .empty (namings mixedRecords)) := by decide +kernel
  obtain ⟨index, hbuild, hlookups, hkeys, -, hcount⟩ := build_lookups true hitems htexts htold
  have ha : (owners (namings mixedRecords) (.text "a")).getLast? = some (.text "c") := by
    decide +kernel
  have hb : (owners (namings mixedRecords) (.text "b")).getLast? = some .null := by
    decide +kernel
  refine ⟨hitems, htexts, htold, index, hbuild, ?_, ?_, ?_, hkeys.trans ?_, hcount⟩
  · rw [(hlookups "a").2.1, ha]
    rfl
  · rw [(hlookups "b").2.1, hb]
    rfl
  · exact (hlookups "b").2.2.mpr ⟨(.text "b", .null), by decide +kernel, rfl⟩
  · decide +kernel

end LabelIndex

end Vicinity
