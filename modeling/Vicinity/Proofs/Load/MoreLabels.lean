import Mathlib.Data.List.Forall2
import Vicinity.Proofs.Index.Pass
import Vicinity.Proofs.Load.Reordered
import Vicinity.Proofs.Load.Resolution
import Vicinity.Proofs.Store.Lookup

/-!
# Indexes that know more labels

An index extends another one if it resolves every label that this one resolves, to a related
identifier (`LabelIndex.ExtendedBy`) : to the same one, or to one that means the same. An index that
is built of more objects extends the one built of the first of them, if no label of the others is
among its labels (`LabelIndex.extendedBy_build`).

A line says no less if more labels are known (`LineReading.ofLine_extendedBy`). Its subject can be
found where it was unknown, so that a line that was skipped adds neighbors among those of other
lines; but no neighbor is lost. So two loads of the same lines, one against an index and one against
an extension of it, keep to each other line by line (`Load.ExtendedBy.after`), and whatever has
neighbors at the end of the one has them at the end of the other, among others and in the same order
(`NeighborReader.loadLines_extendedBy`). The number of neighbors that are not resolved can grow, as
lines that were skipped are kept.
-/

namespace Vicinity

variable {related : Value → Value → Prop}

/-! ## Parts of lists -/

theorem sublistForall₂_append {part list part' list' : List Value}
    (h : List.SublistForall₂ related part list) (h' : List.SublistForall₂ related part' list') :
    List.SublistForall₂ related (part ++ part') (list ++ list') := by
  obtain ⟨found, hfound, hsub⟩ := List.sublistForall₂_iff.mp h
  obtain ⟨found', hfound', hsub'⟩ := List.sublistForall₂_iff.mp h'
  exact List.sublistForall₂_iff.mpr
    ⟨found ++ found', List.rel_append hfound hfound', hsub.append hsub'⟩

theorem length_le_of_sublistForall₂ {part list : List Value}
    (h : List.SublistForall₂ related part list) : part.length ≤ list.length := by
  obtain ⟨found, hfound, hsub⟩ := List.sublistForall₂_iff.mp h
  exact hfound.length_eq.trans_le hsub.length_le

/-- More of a list is found if more can be found at all. -/
theorem sublistForall₂_filterMap {α : Type} {f g : α → Option Value}
    (h : ∀ a v, f a = some v → ∃ w, g a = some w ∧ related v w) (list : List α) :
    List.SublistForall₂ related (list.filterMap f) (list.filterMap g) := by
  induction list with
  | nil => exact .nil
  | cons a rest ih =>
    rw [List.filterMap_cons, List.filterMap_cons]
    cases hf : f a with
    | some v =>
      obtain ⟨w, hw, hrelated⟩ := h a v hf
      rw [hw]
      exact .cons hrelated ih
    | none =>
      cases g a with
      | none => exact ih
      | some w => exact .cons_right ih

/-! ## Lines -/

/-- Whether `index'` resolves every label that `index` resolves, to a related identifier. -/
def LabelIndex.ExtendedBy (related : Value → Value → Prop) (index index' : LabelIndex) : Prop :=
  ∀ label id, index.resolve? label = some id →
    ∃ id', index'.resolve? label = some id' ∧ related id id'

theorem LabelIndex.ExtendedBy.mono {related' : Value → Value → Prop} {index index' : LabelIndex}
    (h : index.ExtendedBy related index') (hmono : ∀ v w, related v w → related' v w) :
    index.ExtendedBy related' index' := by
  intro label id hid
  obtain ⟨id', hid', hrelated⟩ := h label id hid
  exact ⟨id', hid', hmono _ _ hrelated⟩

/-- More objects, whose labels are all new, extend an index. -/
theorem LabelIndex.extendedBy_build [Platform] {items more : List SourceItem} {warn warn' : Bool}
    {index index' : LabelIndex} (h : (build items warn).result = .ok index)
    (h' : (build (items ++ more) warn').result = .ok index')
    (hnew : ∀ item ∈ more, ∀ r, item.coerce = .ok r → ∀ name ∈ r.names,
      index.entries.get? name = none) :
    index.ExtendedBy Eq index' := by
  obtain ⟨-, hdone, rfl⟩ := result_build_eq_ok_iff.mp h
  obtain ⟨-, -, rfl⟩ := result_build_eq_ok_iff.mp h'
  intro label id hid
  obtain ⟨v, hv, hvalue⟩ := Option.bind_eq_some_iff.mp hid
  have hother : ((Pass.ofItems more).run.filter fun e => e.1.Same (.text label)) = [] := by
    refine List.filter_eq_nil_iff.mpr fun e he hsame => ?_
    obtain ⟨item, hitem, r, hr, hname, -⟩ := Pass.exists_of_mem_run he
    have hnone := hnew item hitem r hr e.1 hname
    rw [OrderedMap.get?_congr _ (of_decide_eq_true hsame), hv] at hnone
    cases hnone
  have hget : (Pass.ofItems (items ++ more)).index.entries.get? (.text label) = some v := by
    rw [← hv, Pass.index, Pass.index, OrderedMap.get?_ofList, OrderedMap.get?_ofList,
      Pass.run_ofItems_append hdone, List.filter_append, hother, List.append_nil]
  exact ⟨id, by rw [resolve?, hget]; exact hvalue, rfl⟩

namespace LineReading

/-- How what a line says can change if more labels are known. -/
inductive ExtendedBy (related : Value → Value → Prop) : LineReading → LineReading → Prop
  | blank : ExtendedBy related .blank .blank
  | unknownSubject (label : String) :
    ExtendedBy related (.unknownSubject label) (.unknownSubject label)
  /-- The subject is known now. -/
  | found (label : String) (subject : Value) (neighbors : List Value)
    (unresolved : List (String × Nat)) :
    ExtendedBy related (.unknownSubject label) (.entry subject neighbors unresolved)
  | entry {subject subject' : Value} {neighbors neighbors' : List Value}
    (unresolved unresolved' : List (String × Nat)) (hsubject : subject.Same subject')
    (hneighbors : List.SublistForall₂ related neighbors neighbors') :
    ExtendedBy related (.entry subject neighbors unresolved)
      (.entry subject' neighbors' unresolved')

/-- A line says no less if more labels are known. -/
theorem ofLine_extendedBy {index index' : LabelIndex} (hsame : ∀ v w, related v w → v.Same w)
    (h : index.ExtendedBy related index') (includeSubject : Bool) (line : String) :
    ExtendedBy related (ofLine index includeSubject line) (ofLine index' includeSubject line) := by
  rw [ofLine, ofLine]
  cases Text.tokens (Text.withoutLineEnd line) with
  | nil => exact .blank
  | cons first rest =>
    cases hfirst : index.resolve? first with
    | some subject =>
      obtain ⟨subject', hfirst', hrelated⟩ := h first subject hfirst
      simp only [hfirst, hfirst']
      exact .entry _ _ (hsame _ _ hrelated) (sublistForall₂_filterMap (fun t v => h t.1 v) _)
    | none =>
      cases hfirst' : index'.resolve? first with
      | none =>
        simp only [hfirst, hfirst']
        exact .unknownSubject first
      | some subject' =>
        simp only [hfirst, hfirst']
        exact .found ..

namespace ExtendedBy

variable {r r' : LineReading} (h : ExtendedBy related r r')
include h

theorem stats : r'.stats.linesRead = r.stats.linesRead ∧ r'.stats.blankLines = r.stats.blankLines ∧
    r'.stats.skippedLines ≤ r.stats.skippedLines ∧
    r.stats.resolvedNeighbors ≤ r'.stats.resolvedNeighbors := by
  cases h with
  | blank => exact ⟨rfl, rfl, Nat.le_refl _, Nat.le_refl _⟩
  | unknownSubject label => exact ⟨rfl, rfl, Nat.le_refl _, Nat.le_refl _⟩
  | found => exact ⟨rfl, rfl, Nat.zero_le _, Nat.zero_le _⟩
  | entry unresolved unresolved' hsubject hneighbors =>
    exact ⟨rfl, rfl, Nat.le_refl _, length_le_of_sublistForall₂ hneighbors⟩

/-- A subject that is unknown was unknown. -/
theorem mem_warnings {lineNumber : Nat} {u : UnresolvedLabel} (hu : u ∈ r'.warnings lineNumber)
    (hsubject : u.isSubject = true) : u ∈ r.warnings lineNumber := by
  cases h with
  | blank => exact hu
  | unknownSubject label => exact hu
  | found =>
    obtain ⟨t, -, rfl⟩ := List.mem_map.mp hu
    cases hsubject
  | entry =>
    obtain ⟨t, -, rfl⟩ := List.mem_map.mp hu
    cases hsubject

end ExtendedBy

end LineReading

/-! ## Stores -/

namespace NeighborStore

/-- Whether a store has every subject of another one, with its neighbors among others. -/
def ExtendedBy (related : Value → Value → Prop) (s t : NeighborStore) : Prop :=
  ∀ x neighbors, s.entries.get? x = some neighbors →
    ∃ neighbors', t.entries.get? x = some neighbors' ∧
      List.SublistForall₂ related neighbors neighbors'

namespace ExtendedBy

variable {s t : NeighborStore} (h : s.ExtendedBy related t)
include h

/-- What is appended to the larger store alone is among other neighbors. -/
theorem append_right (b : Value × List Value) : s.ExtendedBy related (t.append b) := by
  intro x neighbors hx
  obtain ⟨neighbors', hx', hpart⟩ := h x neighbors hx
  rw [get?_append, hx']
  split
  · refine ⟨_, rfl, ?_⟩
    simpa using sublistForall₂_append hpart .nil
  · exact ⟨neighbors', rfl, hpart⟩

theorem getD_get? (x : Value) :
    List.SublistForall₂ related ((s.entries.get? x).getD []) ((t.entries.get? x).getD []) := by
  cases hx : s.entries.get? x with
  | none => exact .nil
  | some neighbors =>
    obtain ⟨neighbors', hx', hpart⟩ := h x neighbors hx
    rwa [hx']

/-- Both stores can grow by the same subject. -/
theorem append {a b : Value × List Value} (hsubject : a.1.Same b.1)
    (hneighbors : List.SublistForall₂ related a.2 b.2) :
    (s.append a).ExtendedBy related (t.append b) := by
  intro x neighbors hx
  rw [get?_append] at hx ⊢
  by_cases ha : a.1.Same x
  · rw [if_pos ha, Option.some.injEq] at hx
    rw [if_pos (hsubject.symm.trans ha), ← hx]
    exact ⟨_, rfl, sublistForall₂_append (h.getD_get? x) hneighbors⟩
  · rw [if_neg ha] at hx
    rw [if_neg fun hb => ha (hsubject.trans hb)]
    exact h x neighbors hx

theorem size_le : s.size ≤ t.size := by
  refine size_le_of_get? fun x hx => ?_
  obtain ⟨neighbors, hx⟩ := Option.isSome_iff_exists.mp hx
  obtain ⟨neighbors', hx', -⟩ := h x neighbors hx
  exact Option.isSome_iff_exists.mpr ⟨neighbors', hx'⟩

end ExtendedBy

end NeighborStore

/-! ## Two loads of the same lines -/

namespace Load

/-- Two loads of the same lines, the second of which knows more labels. -/
structure ExtendedBy (related : Value → Value → Prop) (l l' : Load) : Prop where
  lineNumber : l'.lineNumber = l.lineNumber
  linesRead : l'.stats.linesRead = l.stats.linesRead
  blankLines : l'.stats.blankLines = l.stats.blankLines
  skippedLines : l'.stats.skippedLines ≤ l.stats.skippedLines
  resolvedNeighbors : l.stats.resolvedNeighbors ≤ l'.stats.resolvedNeighbors
  subjects : ∀ u ∈ l'.warnings, u.isSubject = true → u ∈ l.warnings
  store : l.store.ExtendedBy related l'.store

variable {index index' : LabelIndex} {options : LoadOptions} {l l' : Load}

theorem ExtendedBy.start : ExtendedBy related {} {} :=
  ⟨rfl, rfl, rfl, Nat.le_refl _, Nat.le_refl _, fun _ hu _ => hu, fun _ _ hx => nomatch hx⟩

/-- One more line keeps the loads to each other. -/
theorem ExtendedBy.after (h : ExtendedBy related l l') {r r' : LineReading}
    (hr : LineReading.ExtendedBy related r r') :
    ExtendedBy related (l.after options r) (l'.after options r') := by
  obtain ⟨hread, hblank, hskipped, hresolved⟩ := hr.stats
  refine ⟨congrArg (· + 1) h.lineNumber, congrArg₂ (· + ·) h.linesRead hread,
    congrArg₂ (· + ·) h.blankLines hblank, Nat.add_le_add h.skippedLines hskipped,
    Nat.add_le_add h.resolvedNeighbors hresolved, fun u hu hsubject => ?subjects, ?store⟩
  case subjects =>
    obtain hu | hu := List.mem_append.mp hu
    · exact List.mem_append_left _ (h.subjects u hu hsubject)
    · rw [h.lineNumber] at hu
      exact List.mem_append_right _ (hr.mem_warnings hu hsubject)
  case store =>
    cases hr with
    | blank => exact h.store
    | unknownSubject label => exact h.store
    | found label subject neighbors => exact h.store.append_right (subject, neighbors)
    | entry unresolved unresolved' hsubject hneighbors =>
      exact h.store.append hsubject hneighbors

/-- More lines keep the loads to each other. -/
theorem ExtendedBy.afterLines (h : ExtendedBy related l l')
    (hsame : ∀ v w, related v w → v.Same w) (hindex : index.ExtendedBy related index')
    (lines : List String) :
    ExtendedBy related (l.afterLines options index lines)
      (l'.afterLines options index' lines) := by
  induction lines generalizing l l' with
  | nil => exact h
  | cons line rest ih =>
    rw [afterLines_cons, afterLines_cons]
    exact ih (h.after (LineReading.ofLine_extendedBy hsame hindex _ line))

end Load

/-! ## Whole loads -/

namespace NeighborReader

open LabelIndex

theorem loaded_withIndex_extendedBy {r : NeighborReader} {index' : LabelIndex}
    (hsame : ∀ v w, related v w → v.Same w) (h : r.index.ExtendedBy related index')
    (lines : List String) :
    Load.ExtendedBy related (r.loaded lines) ((r.withIndex index').loaded lines) :=
  Load.ExtendedBy.start.afterLines hsame h lines

/-- Lines are loaded against an index and against one that extends it. Whatever has neighbors has
them again, among others and in the same order, and in the same spelling if the larger index spells
them so. No more lines are skipped, no fewer neighbors are found, for no fewer subjects, and
subjects that are unknown were unknown at the same place. -/
theorem loadLines_extendedBy (r : NeighborReader) (index' : LabelIndex) (lines : List String)
    (hids : ∀ id ∈ r.index.entries.values, id.isHashable)
    (hids' : ∀ id ∈ index'.entries.values, id.isHashable)
    (h : r.index.ExtendedBy Value.Same index') :
    let outcome := r.loadLines lines
    let outcome' := (r.withIndex index').loadLines lines
    let stats := outcome.1.last.stats
    let stats' := outcome'.1.last.stats
    ∃ store store', outcome.2.result = .ok store ∧ outcome'.2.result = .ok store' ∧
      (∀ x neighbors, store.get x = .ok (some neighbors) →
        ∃ neighbors', store'.get x = .ok (some neighbors') ∧
          List.SublistForall₂ Value.Same neighbors neighbors' ∧
          (r.index.ExtendedBy Eq index' → neighbors.Sublist neighbors')) ∧
      stats'.linesRead = stats.linesRead ∧ stats'.blankLines = stats.blankLines ∧
      stats'.skippedLines ≤ stats.skippedLines ∧
      stats.resolvedNeighbors ≤ stats'.resolvedNeighbors ∧ stats.entries ≤ stats'.entries ∧
      ∀ u ∈ outcome'.1.last.warnings, u.isSubject = true → u ∈ outcome.1.last.warnings := by
  have hload : Load.ExtendedBy Value.Same (r.loaded lines) ((r.withIndex index').loaded lines) :=
    loaded_withIndex_extendedBy (fun _ _ hs => hs) h lines
  have hkeys : ∀ line ∈ lines, ∀ s ∈ r.index.subject? line, s.isHashable :=
    fun _ _ s hs => hids s (mem_values_of_subject? hs)
  have hkeys' : ∀ line ∈ lines, ∀ s ∈ index'.subject? line, s.isHashable :=
    fun _ _ s hs => hids' s (mem_values_of_subject? hs)
  rw [r.loadLines_of_isHashable hkeys, (r.withIndex index').loadLines_of_isHashable hkeys']
  refine ⟨_, _, rfl, rfl, fun x neighbors hx => ?neighbors, hload.linesRead, hload.blankLines,
    hload.skippedLines, hload.resolvedNeighbors, hload.store.size_le, hload.subjects⟩
  obtain ⟨hkey, hvalue⟩ := (NeighborStore.get_eq_ok_some_iff _).mp hx
  obtain ⟨neighbors', hvalue', hpart⟩ := hload.store x neighbors hvalue
  refine ⟨neighbors', (NeighborStore.get_eq_ok_some_iff _).mpr ⟨hkey, hvalue'⟩, hpart,
    fun heq => ?spelling⟩
  have hspelled := loaded_withIndex_extendedBy (fun _ _ => congrArg Value.canonical) heq lines
  obtain ⟨spelled, hspelled', hsub⟩ := hspelled.store x neighbors hvalue
  obtain rfl : spelled = neighbors' := Option.some.inj (hspelled'.symm.trans hvalue')
  obtain ⟨found, hfound, hsub⟩ := List.sublistForall₂_iff.mp hsub
  rw [List.forall₂_eq_eq_eq] at hfound
  exact hfound ▸ hsub

/-- Two objects. -/
def knownItems : List SourceItem :=
  [.record { id := .int 1, labels := [.text "x", .text "y"] },
    .record { id := .text "Z", labels := [.text "z"] }]

/-- An object with a new label, which is the first one of them in another spelling. -/
def addedItems : List SourceItem := [.loose (.tuple [.bool true, .text "q"])]

/-- Lines about the first object, between which the new label stands. -/
def interleavedLines : List String := ["x z", "q x w", "p", "y q z"]

theorem loadLines_extendedBy_interleaved :
    ∃ index index', (build knownItems true).result = .ok index ∧
      (build (knownItems ++ addedItems) true).result = .ok index' ∧
      (∀ id ∈ index.entries.values, id.isHashable) ∧
      (∀ id ∈ index'.entries.values, id.isHashable) ∧
      index.ExtendedBy Value.Same index' ∧ index.ExtendedBy Eq index' ∧
      ∃ store store', (loadLines { index } interleavedLines).2.result = .ok store ∧
        ((withIndex { index } index').loadLines interleavedLines).2.result = .ok store' ∧
        ∃ neighbors neighbors', neighbors = [.text "Z", .text "Z"] ∧
          neighbors' = [.text "Z", .int 1, .bool true, .text "Z"] ∧
          store.get (.int 1) = .ok (some neighbors) ∧
          store'.get (.int 1) = .ok (some neighbors') ∧ neighbors.Sublist neighbors' := by
  let index := (Pass.ofItems knownItems).index
  let index' := (Pass.ofItems (knownItems ++ addedItems)).index
  have hbuild : (build knownItems true).result = .ok index :=
    result_build_eq_ok_iff.mpr ⟨by decide +kernel, by decide +kernel, rfl⟩
  have hbuild' : (build (knownItems ++ addedItems) true).result = .ok index' :=
    result_build_eq_ok_iff.mpr ⟨by decide +kernel, by decide +kernel, rfl⟩
  have hids : ∀ id ∈ index.entries.values, id.isHashable := by decide +kernel
  have hids' : ∀ id ∈ index'.entries.values, id.isHashable := by decide +kernel
  have heq : index.ExtendedBy Eq index' := by
    refine extendedBy_build hbuild hbuild' fun item hitem r hr name hname => ?_
    obtain rfl := List.mem_singleton.mp hitem
    obtain rfl := Except.ok.inj hr
    obtain rfl := List.mem_singleton.mp hname
    decide +kernel
  have h : index.ExtendedBy Value.Same index' := heq.mono fun _ _ => congrArg Value.canonical
  obtain ⟨store, store', hstore, hstore', hneighbors, -⟩ :=
    loadLines_extendedBy { index } index' interleavedLines hids hids' h
  have hresult := result_loadLines { index } interleavedLines
    fun _ _ s hs => hids s (mem_values_of_subject? hs)
  obtain rfl := Except.ok.inj (hresult.symm.trans hstore)
  have hresult' := result_loadLines (withIndex { index } index') interleavedLines
    fun _ _ s hs => hids' s (mem_values_of_subject? hs)
  obtain rfl := Except.ok.inj (hresult'.symm.trans hstore')
  have hone : (NeighborStore.ofAppends (index.appends false interleavedLines)).get (.int 1) =
      .ok (some [.text "Z", .text "Z"]) := by decide +kernel
  have hone' : (NeighborStore.ofAppends (index'.appends false interleavedLines)).get (.int 1) =
      .ok (some [.text "Z", .int 1, .bool true, .text "Z"]) := by decide +kernel
  obtain ⟨neighbors', hget', -, hsub⟩ := hneighbors _ _ hone
  obtain rfl : _ = neighbors' := Option.some.inj (Except.ok.inj (hone'.symm.trans hget'))
  exact ⟨index, index', hbuild, hbuild', hids, hids', h, heq, _, _, hstore, hstore', _, _, rfl, rfl,
    hone, hone', hsub heq⟩

end NeighborReader

end Vicinity
