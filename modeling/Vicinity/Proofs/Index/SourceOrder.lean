import Mathlib.Data.List.Forall2
import Mathlib.Data.List.Perm.Basic
import Vicinity.Proofs.Index.Collisions
import Vicinity.Proofs.Index.Pass
import Vicinity.Proofs.Load.Resolution

/-!
# The order of objects

A label has no collision exactly if all its owners are the same, and that is a question of who
owns it and not of the order (`LabelIndex.collisionsFrom_eq_nil_iff`). So objects without
collisions can be indexed in any order : there are no collisions then either, and every label
belongs to the same object, though perhaps to another spelling of its identifier. If there is one
spelling for each object then the index makes no difference to any load
(`LabelIndex.build_perm`).
-/

namespace Vicinity

/-! ## Values that are all the same -/

namespace Value

instance : Std.Symm Same := ⟨fun _ _ => Same.symm⟩

/-- Of values that are all the same it does not matter which one comes last. -/
theorem getLast?_rel_of_perm {ids ids' : List Value} (hperm : ids'.Perm ids)
    (hsame : ids.Pairwise Same) : Option.Rel Same ids'.getLast? ids.getLast? := by
  by_cases hnil : ids = []
  · obtain rfl := hnil
    rw [hperm.eq_nil]
    exact .none
  · have hnil' : ids' ≠ [] := fun h => hnil (h ▸ hperm).symm.eq_nil
    rw [List.getLast?_eq_some_getLast hnil, List.getLast?_eq_some_getLast hnil']
    exact .some (hsame.forall_of_forall (fun v _ => .refl v)
      (hperm.subset (List.getLast_mem hnil')) (List.getLast_mem hnil))

/-- Values that are the same are equal if they are spelled alike. -/
theorem eq_of_rel {v v' : Option Value} (h : Option.Rel Same v' v)
    (hspelled : ∀ i ∈ v', ∀ j ∈ v, i.Same j → i = j) : v' = v := by
  cases h with
  | none => rfl
  | some hsame => exact congrArg some (hspelled _ rfl _ rfl hsame)

end Value

namespace LabelIndex

open ObjectRecord

variable {run run' : List (Value × Value)}

/-! ## Runs of namings -/

theorem owners_perm (h : run'.Perm run) (label : Value) :
    (owners run' label).Perm (owners run label) :=
  (h.filter _).map _

theorem isPlain_perm (h : run'.Perm run) (hplain : IsPlain run) : IsPlain run' :=
  fun e he => hplain e (h.subset he)

/-- There are no collisions if and only if all owners of each label are equal. -/
theorem collisionsFrom_eq_nil_iff (h : IsPlain run) :
    Indexing.collisionsFrom .empty run = [] ↔
      ∀ label, (owners run label).Pairwise Value.Equates := by
  have hlabel (label : Value) :
      (Indexing.collisionsFrom .empty run).filter (·.label = label) = [] ↔
        (owners run label).Pairwise Value.Equates := by
    rw [filter_collisionsFrom h]
    exact passages_eq_nil_iff label _
  constructor
  · intro hnil label
    rw [← hlabel, hnil]
    rfl
  · intro hall
    refine List.eq_nil_iff_forall_not_mem.mpr fun c hc => ?_
    have hmem : c ∈ (Indexing.collisionsFrom .empty run).filter (·.label = c.label) :=
      List.mem_filter.mpr ⟨hc, decide_eq_true rfl⟩
    rw [(hlabel c.label).mpr (hall c.label)] at hmem
    cases hmem

theorem namings_perm {records records' : List ObjectRecord} (h : records'.Perm records) :
    (namings records').Perm (namings records) :=
  h.flatMap_right _

/-- The labels of a run are the same in any order. -/
theorem keys_ofList_perm (h : run'.Perm run) (hplain : IsPlain run) :
    (OrderedMap.ofList run').keys.Perm (OrderedMap.ofList run).keys := by
  have hmem : ∀ {r : List (Value × Value)}, IsPlain r → ∀ k,
      k ∈ (OrderedMap.ofList r).keys ↔ k ∈ r.map Prod.fst := by
    intro r hr k
    rw [OrderedMap.keys_ofList, Value.firsts_of_texts, List.mem_eraseDups]
    intro name hname
    obtain ⟨e, he, rfl⟩ := List.mem_map.mp hname
    exact (hr e he).1
  have hnodup (r : List (Value × Value)) : (OrderedMap.ofList r).keys.Nodup := by
    refine (OrderedMap.pairwise_keys _).imp ?_
    rintro k _ hne rfl
    exact hne (.refl k)
  refine (List.perm_ext_iff_of_nodup (hnodup run') (hnodup run)).mpr fun k => ?_
  rw [hmem (isPlain_perm h hplain), hmem hplain]
  exact (h.map _).mem_iff

/-! ## Built indexes -/

/-- A label belongs to one of the objects. -/
theorem exists_of_get?_namings {records : List ObjectRecord} {label : String} {id : Value}
    (h : (OrderedMap.ofList (namings records)).get? (.text label) = some id) :
    ∃ r ∈ records, r.id = id := by
  rw [get?_ofList_text] at h
  exact exists_of_mem_owners_namings (List.mem_of_getLast? h)

/-- Objects whose index has no collisions are indexed without collisions in any order, to the same
labels. Each label belongs to the same object, and if all identifiers that mean the same are spelled
alike, then every file is loaded with either index to the same store or the same failure, with the
same warnings and counts. All identifiers that are no numbers though they are floating-point values
are taken for one object, as `Value.Same` takes them. -/
theorem build_perm [Platform] {items items' : List SourceItem} {records : List ObjectRecord}
    {index : LabelIndex} {warn : Bool} (warn' : Bool)
    (hitems : List.Forall₂ (fun item r => item.coerce = .ok r) items records)
    (htexts : AreTexts records) (hids : ∀ r ∈ records, r.id ≠ .null)
    (hbuild : (build items warn).result = .ok index) (hnone : index.collisions = [])
    (hperm : items'.Perm items) :
    ∃ index', (build items' warn').result = .ok index' ∧ index'.collisions = [] ∧
      index'.entries.keys.Perm index.entries.keys ∧ index'.objectCount = index.objectCount ∧
      (∀ label : String, Option.Rel Value.Same (index'.entries.get? (.text label))
        (index.entries.get? (.text label))) ∧
      ((∀ r ∈ records, ∀ r' ∈ records, r.id.Same r'.id → r.id = r'.id) →
        ∀ (settings : ReaderSettings) (fs : FileSystem) (path : String),
          let outcome := NeighborReader.loadFile { index, settings } fs path
          let outcome' := NeighborReader.loadFile { index := index', settings } fs path
          outcome'.2 = outcome.2 ∧ outcome'.1.last = outcome.1.last) := by
  obtain ⟨records', hitems', hrecords⟩ := List.perm_comp_forall₂ hperm hitems
  have hplain := isPlain_namings htexts hids
  have hrun := namings_perm hrecords
  have hplain' := isPlain_perm hrun hplain
  have htexts' : AreTexts records' := fun r hr => htexts r (hrecords.subset hr)
  obtain rfl := eq_of_result_build hitems htexts hbuild
  have hequal := (collisionsFrom_eq_nil_iff hplain).mp hnone
  have hsame (label : Value) : (owners (namings records) label).Pairwise Value.Same :=
    (hequal label).imp fun h => h.2
  have hnone' : Indexing.collisionsFrom .empty (namings records') = [] := by
    refine (collisionsFrom_eq_nil_iff hplain').mpr fun label => ?_
    exact ((owners_perm hrun label).pairwise_iff Value.Equates.symm).mpr (hequal label)
  have htold' : Collision.CanBeTold warn' (Indexing.collisionsFrom .empty (namings records')) := by
    simp [hnone', Collision.CanBeTold]
  have hrel (label : String) :
      Option.Rel Value.Same ((OrderedMap.ofList (namings records')).get? (.text label))
        ((OrderedMap.ofList (namings records)).get? (.text label)) := by
    rw [get?_ofList_text, get?_ofList_text]
    exact Value.getLast?_rel_of_perm (owners_perm hrun _) (hsame _)
  refine ⟨_, result_build warn' hitems' htexts' htold', hnone', keys_ofList_perm hrun hplain,
    congrArg Int.ofNat (hperm.length_eq.trans hitems.length_eq), hrel,
    fun hspelled settings fs path => ?loads⟩
  case loads =>
    refine NeighborReader.loadFile_of_resolve?_eq (funext fun label => ?_) settings fs path
    refine congrArg (·.bind Value.toOption) (Value.eq_of_rel (hrel label) ?_)
    intro i hi j hj
    obtain ⟨r, hr, rfl⟩ := exists_of_get?_namings hi
    obtain ⟨r', hr', rfl⟩ := exists_of_get?_namings hj
    exact hspelled r (hrecords.subset hr) r' hr'

/-- Objects that share a label and are the same, though their identifiers are spelled differently,
and another object. -/
def twinItems : List SourceItem :=
  [.record ⟨.int 1, [.text "a"], none⟩, .loose (.tuple [.bool true, .list [.text "b", .text "a"]]),
    .record ⟨.text "c", [], some (.text "")⟩]

/-- The objects. -/
def twinRecords : List ObjectRecord :=
  [⟨.int 1, [.text "a"], none⟩, ⟨.bool true, [.text "b", .text "a"], none⟩,
    ⟨.text "c", [], some (.text "")⟩]

/-- The first and the last of them, and the first one once more. -/
def alikeRecords : List ObjectRecord :=
  [⟨.int 1, [.text "a"], none⟩, ⟨.text "c", [], some (.text "")⟩, ⟨.int 1, [.text "a"], none⟩]

/-- The same as a source. -/
def alikeItems : List SourceItem := alikeRecords.map .record

theorem build_perm_twins :
    (∃ index index', (build twinItems true).result = .ok index ∧ index.collisions = [] ∧
      (build twinItems.reverse false).result = .ok index' ∧ index'.collisions = [] ∧
      index'.entries.keys.Perm index.entries.keys ∧
      Option.Rel Value.Same (index'.entries.get? (.text "a")) (some (.bool true))) ∧
    ∃ index index', (build alikeItems true).result = .ok index ∧
      (build alikeItems.reverse true).result = .ok index' ∧
      ∀ settings fs path, (NeighborReader.loadFile { index := index', settings } fs path).2 =
        (NeighborReader.loadFile { index, settings } fs path).2 := by
  constructor
  · have hitems : List.Forall₂ (fun item r => item.coerce = .ok r) twinItems twinRecords :=
      .cons rfl (.cons rfl (.cons rfl .nil))
    have htexts : AreTexts twinRecords := by
      simp [AreTexts, twinRecords, names, or_imp, forall_and]
    have hids : ∀ r ∈ twinRecords, r.id ≠ .null := by simp [twinRecords]
    have hbuild : (build twinItems true).result = .ok _ := rfl
    obtain ⟨index', hbuild', hnone', hkeys, -, hrel, -⟩ := build_perm false hitems htexts hids
      hbuild (by decide +kernel) twinItems.reverse_perm
    exact ⟨_, index', hbuild, by decide +kernel, hbuild', hnone', hkeys, hrel "a"⟩
  · have hitems : List.Forall₂ (fun item r => item.coerce = .ok r) alikeItems alikeRecords :=
      .cons rfl (.cons rfl (.cons rfl .nil))
    have htexts : AreTexts alikeRecords := by
      simp [AreTexts, alikeRecords, names, or_imp, forall_and]
    have hids : ∀ r ∈ alikeRecords, r.id ≠ .null := by simp [alikeRecords]
    have hspelled : ∀ r ∈ alikeRecords, ∀ r' ∈ alikeRecords, r.id.Same r'.id → r.id = r'.id := by
      decide +kernel
    have hbuild : (build alikeItems true).result = .ok _ := rfl
    obtain ⟨index', hbuild', -, -, -, -, hload⟩ := build_perm true hitems htexts hids hbuild
      (by decide +kernel) alikeItems.reverse_perm
    exact ⟨_, index', hbuild, hbuild', fun settings fs path => (hload hspelled settings fs path).1⟩

end LabelIndex

end Vicinity
