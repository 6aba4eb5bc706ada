import Mathlib.Data.List.TakeWhile
import Vicinity.Proofs.Event
import Vicinity.Proofs.Index.Build

/-!
# How far indexing gets

A pass over a source of objects gives them their names one after the other, until all items are
done or one ends it : an item that is no object, or a name that cannot be a key, which comes after
the names before it. `Pass.ofItems` tells how far a pass gets without building an index. Where the
pass stands is where this run of namings leads, also if it ends early, and whether or not
collisions are told (`Indexing.items_eq`).

There is one exception. A pass that tells its collisions is stopped by the first one whose wording
cannot be made (`Collision.StopAt`), and has then told those before it
(`Indexing.items_of_stopAt`). If all collisions can be told, the result of building an index has
nothing to do with what is told (`LabelIndex.result_build_eq`), and the warnings that are told are
the collisions that were found (`LabelIndex.warnings_build`). The index finds no identifiers but
those of the objects (`LabelIndex.exists_of_resolve?`).
-/

namespace Vicinity

namespace Collision

variable (warn : Bool) (cs : List Collision)

theorem exists_of_mem_told {e : Event} (h : e ∈ told warn cs) : ∃ c ∈ cs, e = .collided c :=
  Event.exists_of_mem_ite h

theorem isWarning_told : ∀ e ∈ told warn cs, e.IsWarning := by
  intro e he
  obtain ⟨c, -, rfl⟩ := exists_of_mem_told warn cs he
  rfl

@[simp] theorem warnings_told : Event.warnings (told warn cs) = told warn cs :=
  Event.warnings_of_isWarning (isWarning_told warn cs)

@[simp] theorem others_told : Event.others (told warn cs) = [] :=
  Event.others_of_isWarning (isWarning_told warn cs)

/-! ## Collisions that cannot be told -/

section

variable [Platform]

/-- The first collision whose wording cannot be made, after those that can be told. -/
def StopAt (cs told : List Collision) (c : Collision) (f : Value.LiteralFault) : Prop :=
  (∃ rest, cs = told ++ c :: rest) ∧ (∀ d ∈ told, d.fault? = none) ∧ c.fault? = some f

variable {cs ds told : List Collision} {c : Collision} {f : Value.LiteralFault}

/-- Either all collisions can be told or there is a first one that cannot. -/
theorem exists_stopAt (h : ¬ ∀ d ∈ cs, d.fault? = none) : ∃ told c f, StopAt cs told c f := by
  induction cs with
  | nil => simp at h
  | cons d cs ih =>
    cases hd : d.fault? with
    | some f => exact ⟨[], d, f, ⟨cs, rfl⟩, by simp, hd⟩
    | none =>
      obtain ⟨told, c, f, ⟨rest, rfl⟩, htold, hc⟩ := ih fun hcs =>
        h (List.forall_mem_cons.mpr ⟨hd, hcs⟩)
      exact ⟨d :: told, c, f, ⟨rest, rfl⟩, List.forall_mem_cons.mpr ⟨hd, htold⟩, hc⟩

/-- The first collision of two lists that cannot be told is in one of them. -/
theorem StopAt.of_append (h : StopAt (cs ++ ds) told c f) :
    StopAt cs told c f ∨
      (∀ d ∈ cs, d.fault? = none) ∧ ∃ later, told = cs ++ later ∧ StopAt ds later c f := by
  obtain ⟨⟨rest, hsplit⟩, htold, hc⟩ := h
  obtain ⟨later, rfl, hds⟩ | ⟨middle, hcs, hrest⟩ := List.append_eq_append_iff.mp hsplit
  · have hfront := (List.forall_mem_append.mp htold).1
    exact .inr ⟨hfront, later, rfl, ⟨rest, hds⟩, (List.forall_mem_append.mp htold).2, hc⟩
  · cases middle with
    | nil =>
      rw [List.append_nil] at hcs
      subst hcs
      exact .inr ⟨htold, [], (List.append_nil _).symm, ⟨rest, hrest.symm⟩, by simp, hc⟩
    | cons d middle =>
      obtain ⟨rfl, rfl⟩ := List.cons.inj hrest
      exact .inl ⟨⟨middle, hcs⟩, htold, hc⟩

end

end Collision

/-! ## Passes -/

/-- How far a pass over objects gets : the names that are given, the number of objects that are
begun, and what ends the pass early. -/
structure Pass where
  run : List (Value × Value) := []
  count : Nat := 0
  fault? : Option IndexFault := none

namespace Pass

/-- The names of an object up to the first one that cannot be a key. -/
def given (r : ObjectRecord) : List (Value × Value) :=
  (r.names.takeWhile Value.isHashable).map fun name => (name, r.id)

/-- How far a pass over some items gets. -/
def ofItems : List SourceItem → Pass
  | [] => {}
  | item :: rest =>
    match item.coerce with
    | .error f => { fault? := some (.badItem f) }
    | .ok r =>
      if r.names.all Value.isHashable then
        { run := given r ++ (ofItems rest).run
          count := (ofItems rest).count + 1
          fault? := (ofItems rest).fault? }
      else { run := given r, count := 1, fault? := some .unhashableLabel }

/-- The collisions that are found on the way. -/
def collisions (p : Pass) : List Collision := Indexing.collisionsFrom .empty p.run

/-- The index at the end. -/
def index (p : Pass) : LabelIndex := ⟨.ofList p.run, p.count, p.collisions⟩

/-- Only objects are given names, and only their own. -/
theorem exists_of_mem_run {items : List SourceItem} {e : Value × Value}
    (h : e ∈ (ofItems items).run) :
    ∃ item ∈ items, ∃ r, item.coerce = .ok r ∧ e.1 ∈ r.names ∧ e.2 = r.id := by
  have hgiven : ∀ {r : ObjectRecord}, e ∈ given r → e.1 ∈ r.names ∧ e.2 = r.id := by
    intro r he
    obtain ⟨name, hname, rfl⟩ := List.mem_map.mp he
    exact ⟨(List.takeWhile_sublist _).subset hname, rfl⟩
  induction items with
  | nil => cases h
  | cons item rest ih =>
    rw [ofItems] at h
    cases hitem : item.coerce with
    | error f =>
      rw [hitem] at h
      cases h
    | ok r =>
      simp only [hitem] at h
      split at h
      · obtain h | h := List.mem_append.mp h
        · exact ⟨item, List.mem_cons_self, r, hitem, hgiven h⟩
        · obtain ⟨item', hmem, hr⟩ := ih h
          exact ⟨item', List.mem_cons_of_mem _ hmem, hr⟩
      · exact ⟨item, List.mem_cons_self, r, hitem, hgiven h⟩

/-- A pass that is not ended goes on with the items that follow. -/
theorem run_ofItems_append {front : List SourceItem} (h : (ofItems front).fault? = none)
    (rest : List SourceItem) :
    (ofItems (front ++ rest)).run = (ofItems front).run ++ (ofItems rest).run := by
  induction front with
  | nil => rfl
  | cons item front ih =>
    rw [ofItems] at h
    rw [List.cons_append, ofItems, ofItems]
    cases hitem : item.coerce with
    | error f => simp [hitem] at h
    | ok r =>
      simp only [hitem] at h ⊢
      split at h
      · rename_i hnames
        rw [if_pos hnames, if_pos hnames]
        simp only [ih h, List.append_assoc]
      · cases h

/-- A pass over objects whose names can be keys comes to its end. -/
theorem ofItems_of_records {items : List SourceItem} {records : List ObjectRecord}
    (hitems : List.Forall₂ (fun item r => item.coerce = .ok r) items records)
    (hnames : ∀ r ∈ records, ∀ name ∈ r.names, name.isHashable) :
    ofItems items = { run := ObjectRecord.namings records, count := records.length } := by
  induction hitems with
  | nil => rfl
  | @cons item r items records hitem _ ih =>
    obtain ⟨hr, hrest⟩ := List.forall_mem_cons.mp hnames
    have hgiven : given r = r.names.map fun name => (name, r.id) := by
      rw [given, List.takeWhile_eq_self_iff.mpr hr]
    rw [ofItems, hitem]
    simp only [List.all_eq_true.mpr hr, if_true, ih hrest, hgiven]
    rfl

end Pass

/-! ## Where a pass stands -/

namespace Indexing

theorem after_nil (warn : Bool) (s : Indexing) : s.after warn [] = s := by
  simp [after, collisionsFrom, Collision.told]

section

variable [Platform] {warn : Bool}

/-- Names are given to their object up to the first one that cannot be a key. -/
theorem labels_eq (id : Value) (names : List Value) (s : Indexing) :
    let run := (names.takeWhile Value.isHashable).map fun name => (name, id)
    Collision.CanBeTold warn (collisionsFrom s.entries run) →
      labels warn id s names =
        if names.all Value.isHashable then .ok (s.after warn run)
        else .error (s.after warn run, .unhashableLabel) := by
  induction names generalizing s with
  | nil => exact fun _ => congrArg Except.ok (after_nil warn s).symm
  | cons name rest ih =>
    intro run htold
    rw [labels]
    by_cases hname : name.isHashable
    · have hrun : run = (name, id) ::
          ((rest.takeWhile Value.isHashable).map fun name => (name, id)) := by
        simp only [run, List.takeWhile_cons_of_pos hname, List.map_cons]
      rw [hrun] at htold ⊢
      obtain ⟨hfirst, hlater⟩ := Collision.canBeTold_append.mp htold
      rw [if_pos hname, label_eq_ok hfirst]
      refine (ih _ hlater).trans ?_
      simp only [← after_append, List.all_cons, hname, Bool.true_and]
      rfl
    · simp [run, hname, after_nil]

/-- Names are given to their object up to the first collision that cannot be told. -/
theorem labels_of_stopAt {id : Value} {names : List Value} {s : Indexing} {told : List Collision}
    {c : Collision} {f : Value.LiteralFault}
    (h : Collision.StopAt (collisionsFrom s.entries
      ((names.takeWhile Value.isHashable).map fun name => (name, id))) told c f) :
    ∃ s', labels true id s names = .error (s', .unwritable f) ∧
      s'.collisions = s.collisions ++ (told ++ [c]) ∧
      s'.events = s.events ++ told.map .collided := by
  induction names generalizing s told with
  | nil =>
    obtain ⟨⟨rest, hsplit⟩, -⟩ := h
    simp [collisionsFrom] at hsplit
  | cons name rest ih =>
    by_cases hname : name.isHashable
    · rw [List.takeWhile_cons_of_pos hname, List.map_cons, collisionsFrom] at h
      rw [labels, if_pos hname]
      obtain hfirst | ⟨hfirst, later, rfl, hlater⟩ := h.of_append
      · obtain ⟨⟨others, hsplit⟩, -, hc⟩ := hfirst
        obtain ⟨rfl, hcollision⟩ : told = [] ∧ collision? s.entries (name, id) = some c := by
          cases hd : collision? s.entries (name, id) <;> cases told <;> simp_all
        rw [label_eq_error hcollision hc]
        exact ⟨_, rfl, by simp, by simp⟩
      · have htold : Collision.CanBeTold true (collision? s.entries (name, id)).toList :=
          fun _ => hfirst
        rw [label_eq_ok htold]
        obtain ⟨s', hs', hcollisions, hevents⟩ := ih (s := s.after true [(name, id)]) hlater
        refine ⟨s', hs', ?_, ?_⟩
        · rw [hcollisions, after_singleton, List.append_assoc, List.append_assoc]
        · rw [hevents, after_singleton, Collision.told, if_pos rfl, List.map_append,
            List.append_assoc]
    · obtain ⟨⟨others, hsplit⟩, -⟩ := h
      simp [hname, collisionsFrom] at hsplit

/-- The state that a pass comes to. -/
def through (warn : Bool) (s : Indexing) (p : Pass) : Indexing :=
  { s.after warn p.run with objectCount := s.objectCount + p.count }

/-- All there is to say about a pass over items, whether it ends early or not, unless a collision
stops it that cannot be told. -/
theorem items_eq (items : List SourceItem) (s : Indexing)
    (htold : Collision.CanBeTold warn (collisionsFrom s.entries (Pass.ofItems items).run)) :
    Indexing.items warn s items = (Pass.ofItems items).fault?.elim
      (.ok (s.through warn (Pass.ofItems items)))
      fun f => .error (s.through warn (Pass.ofItems items), f) := by
  induction items generalizing s with
  | nil => exact congrArg Except.ok (after_nil warn s).symm
  | cons item rest ih =>
    rw [Indexing.items, List.foldlM_cons, Indexing.item]
    rw [Pass.ofItems] at htold ⊢
    cases hitem : item.coerce with
    | error f =>
      simp only [through, after_nil]
      rfl
    | ok r =>
      simp only [hitem] at htold ⊢
      by_cases hnames : r.names.all Value.isHashable
      · have hcount : s.objectCount + 1 + (Pass.ofItems rest).count =
            s.objectCount + ((Pass.ofItems rest).count + 1) := by omega
        rw [if_pos hnames] at htold ⊢
        rw [collisionsFrom_append] at htold
        obtain ⟨hfirst, hlater⟩ := Collision.canBeTold_append.mp htold
        rw [labels_eq _ _ { s with objectCount := s.objectCount + 1 } hfirst, if_pos hnames]
        refine (ih _ hlater).trans ?_
        simp only [through, after_append, ← hcount]
        rfl
      · rw [if_neg hnames] at htold ⊢
        rw [labels_eq _ _ { s with objectCount := s.objectCount + 1 } htold, if_neg hnames]
        rfl

/-- A pass is stopped by the first collision that cannot be told, which is then remembered, and has
told those before it. -/
theorem items_of_stopAt {items : List SourceItem} {s : Indexing} {told : List Collision}
    {c : Collision} {f : Value.LiteralFault}
    (h : Collision.StopAt (collisionsFrom s.entries (Pass.ofItems items).run) told c f) :
    ∃ s', Indexing.items true s items = .error (s', .unwritable f) ∧
      s'.collisions = s.collisions ++ (told ++ [c]) ∧
      s'.events = s.events ++ told.map .collided := by
  induction items generalizing s told with
  | nil =>
    obtain ⟨⟨rest, hsplit⟩, -⟩ := h
    simp [Pass.ofItems, collisionsFrom] at hsplit
  | cons item rest ih =>
    rw [Indexing.items, List.foldlM_cons, Indexing.item]
    rw [Pass.ofItems] at h
    cases hitem : item.coerce with
    | error f' =>
      obtain ⟨⟨others, hsplit⟩, -⟩ := h
      simp [hitem, collisionsFrom] at hsplit
    | ok r =>
      simp only [hitem] at h ⊢
      by_cases hnames : r.names.all Value.isHashable
      · rw [if_pos hnames, collisionsFrom_append] at h
        obtain hfirst | ⟨hfirst, later, rfl, hlater⟩ := h.of_append
        · obtain ⟨s', hs', hcollisions, hevents⟩ :=
            labels_of_stopAt (s := { s with objectCount := s.objectCount + 1 }) hfirst
          rw [hs']
          exact ⟨s', rfl, hcollisions, hevents⟩
        · have htold : Collision.CanBeTold true (collisionsFrom s.entries (Pass.given r)) :=
            fun _ => hfirst
          rw [labels_eq _ _ { s with objectCount := s.objectCount + 1 } htold, if_pos hnames]
          obtain ⟨s', hs', hcollisions, hevents⟩ :=
            ih (s := { s.after true (Pass.given r) with objectCount := s.objectCount + 1 }) hlater
          refine ⟨s', hs', ?_, ?_⟩
          · rw [hcollisions, after, List.append_assoc, List.append_assoc]
          · rw [hevents, after, Collision.told, if_pos rfl, List.map_append, List.append_assoc]
      · rw [if_neg hnames] at h
        obtain ⟨s', hs', hcollisions, hevents⟩ :=
          labels_of_stopAt (s := { s with objectCount := s.objectCount + 1 }) h
        rw [hs']
        exact ⟨s', rfl, hcollisions, hevents⟩

end

end Indexing

/-! ## Built indexes -/

namespace LabelIndex

variable [Platform] {items : List SourceItem} {warn : Bool}

/-- If collisions can be told, the result of building an index has nothing to do with what is
told. -/
theorem result_build_eq (htold : Collision.CanBeTold warn (Pass.ofItems items).collisions) :
    (build items warn).result =
      (Pass.ofItems items).fault?.elim (.ok (Pass.ofItems items).index) Except.error := by
  rw [build, Indexing.items_eq _ _ htold]
  cases (Pass.ofItems items).fault? with
  | none => simp [Pass.index, Pass.collisions, Indexing.through, Indexing.after,
      OrderedMap.ofList]
  | some f => rfl

/-- Collisions are told as they are found, also if the pass ends early. -/
theorem events_build (htold : Collision.CanBeTold warn (Pass.ofItems items).collisions) :
    let p := Pass.ofItems items
    (build items warn).events = .indexStarted :: Collision.told warn p.collisions ++
      p.fault?.elim [.indexFinished p.index.size p.count] fun _ => [] := by
  intro p
  rw [build, Indexing.items_eq _ _ htold]
  cases (Pass.ofItems items).fault? with
  | none => simp [p, Pass.index, Pass.collisions, Indexing.through, Indexing.after,
      OrderedMap.ofList, size]
  | some f => simp [p, Pass.collisions, Indexing.through, Indexing.after]

/-- An index is not built if a collision is to be told that cannot be told. -/
theorem build_of_stopAt {told : List Collision} {c : Collision} {f : Value.LiteralFault}
    (h : Collision.StopAt (Pass.ofItems items).collisions told c f) :
    build items true = ⟨.indexStarted :: told.map .collided, .error (.unwritable f)⟩ := by
  obtain ⟨s, hs, -, hevents⟩ := Indexing.items_of_stopAt (s := { events := [.indexStarted] }) h
  rw [build, hs]
  exact congrArg (Told.mk · _) hevents

theorem warnings_build (htold : Collision.CanBeTold warn (Pass.ofItems items).collisions) :
    Event.warnings (build items warn).events =
      Collision.told warn (Pass.ofItems items).collisions := by
  rw [events_build htold]
  cases (Pass.ofItems items).fault? <;> simp [Event.warnings_cons, Event.IsWarning, Event.level]

/-- Whether collisions are told makes no difference to what else is told, nor to the result, if they
can be told. -/
theorem build_quiet (htold : Collision.CanBeTold warn (Pass.ofItems items).collisions) :
    build items false = (build items warn).quiet := by
  have hfalse : Collision.CanBeTold false (Pass.ofItems items).collisions := nofun
  have hresult : (build items false).result = (build items warn).result := by
    rw [result_build_eq hfalse, result_build_eq htold]
  have hevents : (build items false).events = Event.others (build items warn).events := by
    have hnone (cs : List Collision) : Collision.told false cs = [] := rfl
    rw [events_build hfalse, events_build htold, hnone]
    cases (Pass.ofItems items).fault? <;>
      simp [Event.others_cons, Event.IsWarning, Event.level]
  rw [Told.quiet, ← hresult, ← hevents]

variable {index : LabelIndex}

/-- An index is built of items that are objects with names that can be keys, if the collisions that
are to be told can be told. -/
theorem result_build_eq_ok_iff :
    (build items warn).result = .ok index ↔
      Collision.CanBeTold warn (Pass.ofItems items).collisions ∧
        (Pass.ofItems items).fault? = none ∧ index = (Pass.ofItems items).index := by
  by_cases htold : Collision.CanBeTold warn (Pass.ofItems items).collisions
  · rw [result_build_eq htold, and_iff_right htold]
    cases (Pass.ofItems items).fault? <;> simp [eq_comm]
  · obtain ⟨rfl, hnone⟩ : warn = true ∧ ¬ ∀ c ∈ (Pass.ofItems items).collisions, c.fault? = none :=
      Classical.not_imp.mp htold
    obtain ⟨told, c, f, hstop⟩ := Collision.exists_stopAt hnone
    simp [build_of_stopAt hstop, htold]

/-- There is one index that can be built of objects whose names are texts. -/
theorem eq_of_result_build {records : List ObjectRecord}
    (hitems : List.Forall₂ (fun item r => item.coerce = .ok r) items records)
    (htexts : ObjectRecord.AreTexts records) (h : (build items warn).result = .ok index) :
    index =
      { entries := .ofList (ObjectRecord.namings records)
        objectCount := records.length
        collisions := Indexing.collisionsFrom .empty (ObjectRecord.namings records) } := by
  have hnames : ∀ r ∈ records, ∀ name ∈ r.names, name.isHashable := by
    intro r hr name hname
    obtain ⟨s, rfl⟩ := htexts r hr name hname
    rfl
  rw [(result_build_eq_ok_iff.mp h).2.2, Pass.ofItems_of_records hitems hnames]
  rfl

/-- What a built index finds is the identifier of one of its objects. -/
theorem exists_of_resolve? (h : (build items warn).result = .ok index) {label : String}
    {id : Value} (hid : index.resolve? label = some id) :
    ∃ item ∈ items, ∃ r, item.coerce = .ok r ∧ id = r.id := by
  obtain ⟨-, -, rfl⟩ := result_build_eq_ok_iff.mp h
  obtain ⟨v, hv, hv'⟩ := Option.bind_eq_some_iff.mp hid
  obtain rfl : v = id := by
    cases v <;> first | exact Option.some.inj hv' | cases hv'
  rw [Pass.index, OrderedMap.get?_ofList] at hv
  obtain ⟨e, he, rfl⟩ := List.mem_map.mp (List.mem_of_getLast? hv)
  obtain ⟨item, hitem, r, hr, -, hid⟩ := Pass.exists_of_mem_run (List.mem_filter.mp he).1
  exact ⟨item, hitem, r, hr, hid⟩

end LabelIndex

end Vicinity
