import Mathlib.Algebra.Order.Field.Rat
import Mathlib.Data.List.Forall2
import Mathlib.Data.List.Perm.Subperm
import Mathlib.Data.String.Basic
import Vicinity.Proofs.Binary64.Rounding
import Vicinity.Value.Same

/-!
# Equality of identifiers

`Value.Equals` says by rules when two identifiers are equal : numbers of any kind if they are the
same number, texts if they are the same text, tuples item by item, and dictionaries if they have the
same keys in any order with equal values under them. A value can be an identifier if its numbers are
finite and its dictionaries have no key twice (`Value.IsIdentifier`). Sameness, which compares one
chosen spelling of each value, is this equality on identifiers (`Value.same_iff_equals`).

The spelling of a number is a matter of its value (`Value.same_of_number?`), because no two
floating-point numbers but the two zeros have the same value (`Binary64.Finite.ext_value`). The
spelling of a dictionary has the same entries in ascending order of their keys
(`Value.perm_canonicalEntries`), and there is just one such order.
-/

namespace Vicinity

/-! ## Floating-point numbers -/

namespace Binary64

namespace Finite

/-- One, with the sign of a number. -/
def sign (x : Finite) : ℚ := if x.negative then -1 else 1

/-- The number that this is. -/
def value (x : Finite) : ℚ := x.sign * (x.significand * 2 ^ x.exponent)

variable (x : Finite)

theorem cast_signed (n : Nat) :
    ((if x.negative then -(n : Int) else n : Int) : ℚ) = x.sign * n := by
  rw [sign]
  split <;> simp

theorem abs_value : |x.value| = x.ratio.1 / x.ratio.2 := by
  have hsign : |x.sign| = 1 := by
    rw [sign]
    split <;> simp
  rw [value, abs_mul, hsign, one_mul, ratio_cast, abs_of_nonneg (by positivity)]

theorem value_eq : x.value = x.sign * (x.ratio.1 / x.ratio.2) := by
  rw [value, ratio_cast]

end Finite

theorem ratio_eq_natCast_iff {num den : Nat} (h : den ≠ 0) (n : Nat) :
    (num / den : ℚ) = n ↔ num % den = 0 ∧ num / den = n := by
  rw [div_eq_iff (Nat.cast_ne_zero.mpr h)]
  norm_cast
  constructor
  · rintro rfl
    exact ⟨Nat.mul_mod_left n den, Nat.mul_div_cancel n (Nat.pos_of_ne_zero h)⟩
  · rintro ⟨hmod, rfl⟩
    exact (Nat.div_mul_cancel (Nat.dvd_of_mod_eq_zero hmod)).symm

/-- A number is equal to a whole number if and only if this is its value. -/
theorem toInt?_finite_eq_some_iff (x : Finite) (n : Int) :
    toInt? (.finite x) = some n ↔ x.value = n := by
  have hratio (k : Nat) : (x.ratio.1 / x.ratio.2 : ℚ) = k ↔ _ :=
    ratio_eq_natCast_iff (ratio_snd_ne_zero x) k
  simp only [toInt?]
  constructor
  · intro h
    split at h
    · rename_i hmod
      rw [x.value_eq, (hratio _).mpr ⟨hmod, rfl⟩, ← x.cast_signed, Option.some.inj h]
    · cases h
  · intro h
    have hsize : (x.ratio.1 / x.ratio.2 : ℚ) = n.natAbs := by
      rw [← x.abs_value, h, Nat.cast_natAbs, Int.cast_abs]
    obtain ⟨hmod, hdiv⟩ := (hratio _).mp hsize
    rw [x.value_eq, hsize, ← x.cast_signed] at h
    rw [if_pos hmod, hdiv, Int.cast_inj.mp h]

/-- A number other than zero is told by its value. -/
theorem Finite.ext_value {x y : Finite} (h : x.value = y.value) (hne : x.value ≠ 0) : x = y := by
  have hsize : (x.ratio.1 / x.ratio.2 : ℚ) = y.ratio.1 / y.ratio.2 := by
    rw [← x.abs_value, ← y.abs_value, h]
  have hnegative : x.negative = y.negative := by
    rw [x.value_eq] at h hne
    rw [y.value_eq, ← hsize, mul_left_inj' (right_ne_zero_of_mul hne), sign, sign] at h
    revert h
    cases x.negative <;> cases y.negative <;> norm_num
  have hcross : x.ratio.1 * y.ratio.2 = y.ratio.1 * x.ratio.2 := by
    rw [div_eq_div_iff (Nat.cast_ne_zero.mpr (ratio_snd_ne_zero x))
      (Nat.cast_ne_zero.mpr (ratio_snd_ne_zero y))] at hsize
    exact_mod_cast hsize
  have hround := ofRatio_eq_of_ratio y.negative (ratio_snd_ne_zero x) (ratio_snd_ne_zero y) hcross
  rw [← hnegative, ofRatio_ratio, hnegative, ofRatio_ratio] at hround
  exact Binary64.finite.inj hround

end Binary64

/-! ## Numbers -/

namespace Value

/-- The number that a value is. True is one, and false is zero. -/
def number? : Value → Option ℚ
  | bool b => some (if b then 1 else 0)
  | int n => some n
  | float (.finite x) => some x.value
  | _ => none

variable {a b : Value} {q : ℚ}

theorem number?_canonical (a : Value) : a.canonical.number? = a.number? := by
  cases a with
  | bool b => cases b <;> rfl
  | float x =>
    rw [canonical]
    split
    · rename_i n hn
      cases x with
      | finite x => rw [number?, number?, (Binary64.toInt?_finite_eq_some_iff x n).mp hn]
      | infinite _ | nan => cases hn
    · rfl
  | _ => rfl

theorem number?_eq_of_same (h : a.Same b) : a.number? = b.number? := by
  rw [← number?_canonical a, ← number?_canonical b, h]

/-- A number is spelled as a whole number if it is one. -/
theorem canonical_of_number? {n : Int} (h : a.number? = some (n : ℚ)) : a.canonical = int n := by
  cases a with
  | bool b =>
    have hn : ((if b then 1 else 0 : Int) : ℚ) = n := by
      rw [← Option.some.inj h]
      cases b <;> simp
    rw [canonical, Int.cast_inj.mp hn]
  | int m => rw [canonical, Int.cast_inj.mp (Option.some.inj h)]
  | float x =>
    cases x with
    | finite x =>
      have hwhole := (Binary64.toInt?_finite_eq_some_iff x n).mpr (Option.some.inj h)
      simp only [canonical, hwhole]
    | infinite _ | nan => cases h
  | _ => cases h

/-- A number that is not whole is a floating-point number. -/
theorem exists_float_of_number? (h : a.number? = some q) (hq : ∀ n : Int, q ≠ n) :
    ∃ x : Binary64.Finite, a = float (.finite x) ∧ x.value = q := by
  cases a with
  | bool b =>
    refine absurd (Option.some.inj h).symm ?_
    cases b
    · simpa using hq 0
    · simpa using hq 1
  | int n => exact absurd (Option.some.inj h).symm (hq n)
  | float x =>
    cases x with
    | finite x => exact ⟨x, rfl, Option.some.inj h⟩
    | infinite _ | nan => cases h
  | _ => cases h

/-- Numbers of one value mean the same, whatever kinds of number they are. -/
theorem same_of_number? (ha : a.number? = some q) (hb : b.number? = some q) : a.Same b := by
  by_cases hq : ∃ n : Int, q = n
  · obtain ⟨n, rfl⟩ := hq
    rw [Same, canonical_of_number? ha, canonical_of_number? hb]
  · have hwhole : ∀ n : Int, q ≠ n := fun n h => hq ⟨n, h⟩
    obtain ⟨x, rfl, hx⟩ := exists_float_of_number? ha hwhole
    obtain ⟨y, rfl, hy⟩ := exists_float_of_number? hb hwhole
    have hne : x.value ≠ 0 := hx.symm ▸ hwhole 0
    rw [Binary64.Finite.ext_value (hx.trans hy.symm) hne]
    exact .refl _

/-! ## Items -/

theorem canonicalItems_eq_map (items : List Value) :
    canonicalItems items = items.map canonical := by
  induction items with
  | nil => rfl
  | cons v rest ih => rw [canonicalItems, ih, List.map_cons]

theorem canonicalItems_eq_iff {as bs : List Value} :
    canonicalItems as = canonicalItems bs ↔ List.Forall₂ Same as bs := by
  rw [canonicalItems_eq_map, canonicalItems_eq_map, ← List.forall₂_eq_eq_eq,
    List.forall₂_map_left_iff, List.forall₂_map_right_iff]
  rfl

/-! ## Entries -/

variable {key : String} {value : Value} {entries : List (String × Value)}

theorem perm_insertSorted (h : key ∉ entries.map Prod.fst) :
    (insertSorted key value entries).Perm ((key, value) :: entries) := by
  induction entries with
  | nil => exact .refl _
  | cons e rest ih =>
    obtain ⟨hne, hrest⟩ := List.ne_and_not_mem_of_not_mem_cons h
    rw [insertSorted]
    split
    · exact .refl _
    · exact ((ih hrest).cons e).trans (.swap _ _ _)

theorem fst_eq_or_mem_of_mem_insertSorted {e : String × Value}
    (h : e ∈ insertSorted key value entries) : e.1 = key ∨ e ∈ entries := by
  induction entries with
  | nil =>
    obtain rfl := List.mem_singleton.mp h
    exact .inl rfl
  | cons e' rest ih =>
    rw [insertSorted] at h
    split at h
    · obtain rfl | h := List.mem_cons.mp h
      · exact .inl rfl
      · exact .inr h
    · split at h
      · exact .inr h
      · obtain rfl | h := List.mem_cons.mp h
        · exact .inr List.mem_cons_self
        · exact (ih h).imp_right (List.mem_cons_of_mem _)

theorem pairwise_insertSorted (h : entries.Pairwise fun e e' => e.1 < e'.1) :
    (insertSorted key value entries).Pairwise fun e e' => e.1 < e'.1 := by
  induction entries with
  | nil => exact List.pairwise_singleton _ _
  | cons e rest ih =>
    obtain ⟨he, hrest⟩ := List.pairwise_cons.mp h
    rw [insertSorted]
    split
    · rename_i hlt
      refine List.pairwise_cons.mpr ⟨fun e' he' => ?_, h⟩
      obtain rfl | he' := List.mem_cons.mp he'
      · exact hlt
      · exact lt_trans hlt (he e' he')
    · split
      · exact h
      · rename_i hge hne
        have hlt : e.1 < key := lt_of_le_of_ne (not_lt.mp hge) (Ne.symm hne)
        refine List.pairwise_cons.mpr ⟨fun e' he' => ?_, ih hrest⟩
        obtain heq | he' := fst_eq_or_mem_of_mem_insertSorted he'
        · exact heq ▸ hlt
        · exact he e' he'

theorem pairwise_canonicalEntries (entries : List (String × Value)) :
    (canonicalEntries entries).Pairwise fun e e' => e.1 < e'.1 := by
  induction entries with
  | nil => exact .nil
  | cons e rest ih => exact pairwise_insertSorted ih

/-- An entry with the spelling of its value. -/
def spelled (e : String × Value) : String × Value := (e.1, e.2.canonical)

theorem map_fst_spelled (entries : List (String × Value)) :
    (entries.map spelled).map Prod.fst = entries.map Prod.fst := by
  rw [List.map_map]
  rfl

/-- A dictionary is spelled with the spellings of its entries. -/
theorem perm_canonicalEntries (h : (entries.map Prod.fst).Nodup) :
    (canonicalEntries entries).Perm (entries.map spelled) := by
  induction entries with
  | nil => exact .nil
  | cons e rest ih =>
    obtain ⟨he, hrest⟩ := List.nodup_cons.mp h
    have hperm := ih hrest
    refine (perm_insertSorted ?_).trans (hperm.cons _)
    rwa [(hperm.map Prod.fst).mem_iff, map_fst_spelled]

/-- Dictionaries have the same spelling if they have the same keys, in any order, with values that
mean the same. -/
theorem canonicalEntries_eq_iff {as bs : List (String × Value)}
    (has : (as.map Prod.fst).Nodup) (hbs : (bs.map Prod.fst).Nodup) :
    canonicalEntries as = canonicalEntries bs ↔ (as.map Prod.fst).Perm (bs.map Prod.fst) ∧
      ∀ e ∈ as, ∀ e' ∈ bs, e.1 = e'.1 → e.2.Same e'.2 := by
  have hperm : canonicalEntries as = canonicalEntries bs ↔
      (as.map spelled).Perm (bs.map spelled) := by
    constructor
    · intro h
      exact (perm_canonicalEntries has).symm.trans (h ▸ perm_canonicalEntries hbs)
    · intro h
      have hentries := (perm_canonicalEntries has).trans (h.trans (perm_canonicalEntries hbs).symm)
      exact hentries.eq_of_pairwise (fun e e' _ _ hlt hgt => absurd hgt (lt_asymm hlt))
        (pairwise_canonicalEntries as) (pairwise_canonicalEntries bs)
  rw [hperm]
  constructor
  · intro h
    refine ⟨?keys, fun e he e' he' hkey => ?values⟩
    case keys =>
      rw [← map_fst_spelled as, ← map_fst_spelled bs]
      exact h.map _
    case values =>
      obtain ⟨e'', he'', heq⟩ := List.mem_map.mp (h.subset (List.mem_map_of_mem he))
      obtain ⟨hfst, hsnd⟩ := Prod.mk.inj heq
      have hsame : e'' = e' := List.inj_on_of_nodup_map hbs he'' he' (hfst.trans hkey)
      rw [Same, ← hsnd, hsame]
  · rintro ⟨hkeys, hvalues⟩
    have hnodup : (as.map spelled).Nodup := .of_map Prod.fst (by rwa [map_fst_spelled])
    have hlength : (bs.map spelled).length ≤ (as.map spelled).length := by
      simpa using hkeys.length_eq.ge
    have hsubset : as.map spelled ⊆ bs.map spelled := by
      refine List.forall_mem_map.mpr fun e he => ?_
      obtain ⟨e', he', hkey⟩ := List.mem_map.mp (hkeys.subset (List.mem_map_of_mem he))
      have hvalue := hvalues e he e' he' hkey.symm
      exact List.mem_map.mpr ⟨e', he', Prod.ext hkey hvalue.symm⟩
    exact (List.subperm_of_subset hnodup hsubset).perm_of_length_le hlength

/-! ## Identifiers -/

/-- What an identifier can be : its numbers are finite, and its dictionaries have no key twice. -/
inductive IsIdentifier : Value → Prop
  | null : IsIdentifier .null
  | bool (b : Bool) : IsIdentifier (.bool b)
  | int (n : Int) : IsIdentifier (.int n)
  | float (x : Binary64.Finite) : IsIdentifier (.float (.finite x))
  | text (s : String) : IsIdentifier (.text s)
  | tuple {items : List Value} (h : ∀ v ∈ items, IsIdentifier v) : IsIdentifier (.tuple items)
  | list {items : List Value} (h : ∀ v ∈ items, IsIdentifier v) : IsIdentifier (.list items)
  | dict {entries : List (String × Value)} (hkeys : (entries.map Prod.fst).Nodup)
    (h : ∀ e ∈ entries, IsIdentifier e.2) : IsIdentifier (.dict entries)

/-- Equality of identifiers. Numbers of any kind are equal if they are the same number, and
dictionaries if they have the same keys, in any order, with equal values. -/
inductive Equals : Value → Value → Prop
  | null : Equals .null .null
  | number {a b : Value} {q : ℚ} (ha : a.number? = some q) (hb : b.number? = some q) : Equals a b
  | text (s : String) : Equals (.text s) (.text s)
  | tuple {as bs : List Value} (h : List.Forall₂ Equals as bs) : Equals (.tuple as) (.tuple bs)
  | list {as bs : List Value} (h : List.Forall₂ Equals as bs) : Equals (.list as) (.list bs)
  | dict {as bs : List (String × Value)} (hkeys : (as.map Prod.fst).Perm (bs.map Prod.fst))
    (h : ∀ e ∈ as, ∀ e' ∈ bs, e.1 = e'.1 → Equals e.2 e'.2) : Equals (.dict as) (.dict bs)

/-- The kinds of values between which there is no equality. -/
inductive Kind where
  | null
  | number
  | text
  | tuple
  | list
  | dict

/-- The kind of a value. -/
def kind : Value → Kind
  | null => .null
  | bool _ | int _ | float _ => .number
  | text _ => .text
  | tuple _ => .tuple
  | list _ => .list
  | dict _ => .dict

theorem kind_canonical (a : Value) : a.canonical.kind = a.kind := by
  cases a with
  | float x =>
    rw [canonical]
    split <;> rfl
  | _ => rfl

theorem kind_eq_of_same (h : a.Same b) : a.kind = b.kind := by
  rw [← kind_canonical a, ← kind_canonical b, h]

theorem kind_of_number? (h : a.number? = some q) : a.kind = .number := by
  cases a with
  | bool | int | float => rfl
  | _ => cases h

theorem kind_eq_of_equals (h : a.Equals b) : a.kind = b.kind := by
  cases h with
  | number ha hb => rw [kind_of_number? ha, kind_of_number? hb]
  | _ => rfl

/-! ## Sameness of identifiers -/

/-- A number means the same as what is equal to it. -/
theorem same_iff_equals_of_number? (ha : a.number? = some q) : a.Same b ↔ a.Equals b := by
  constructor
  · intro h
    exact .number ha (number?_eq_of_same h ▸ ha)
  · intro h
    cases h with
    | number ha' hb => exact same_of_number? ha' hb
    | _ => cases ha

theorem same_iff_equals_of_kind_ne (h : a.kind ≠ b.kind) : a.Same b ↔ a.Equals b :=
  iff_of_false (mt kind_eq_of_same h) (mt kind_eq_of_equals h)

/-- Lists are related by relations that agree on their items if they are by one of them. -/
theorem forall₂_iff_of_mem {R S : Value → Value → Prop} {as bs : List Value}
    (h : ∀ a ∈ as, ∀ b ∈ bs, (R a b ↔ S a b)) : List.Forall₂ R as bs ↔ List.Forall₂ S as bs := by
  have hzip : ∀ a b, (a, b) ∈ as.zip bs → (R a b ↔ S a b) := fun a b hab =>
    h a (List.of_mem_zip hab).1 b (List.of_mem_zip hab).2
  rw [List.forall₂_iff_zip, List.forall₂_iff_zip]
  exact and_congr_right fun _ => ⟨fun hR a b hab => (hzip a b hab).mp (hR hab),
    fun hS a b hab => (hzip a b hab).mpr (hS hab)⟩

/-- Sequences are equal item by item. -/
theorem tuple_equals_iff {as bs : List Value} :
    (tuple as).Equals (tuple bs) ↔ List.Forall₂ Equals as bs := by
  constructor
  · intro h
    cases h with
    | number ha => cases ha
    | tuple h => exact h
  · exact .tuple

theorem list_equals_iff {as bs : List Value} :
    (list as).Equals (list bs) ↔ List.Forall₂ Equals as bs := by
  constructor
  · intro h
    cases h with
    | number ha => cases ha
    | list h => exact h
  · exact .list

theorem dict_equals_iff {as bs : List (String × Value)} :
    (dict as).Equals (dict bs) ↔ (as.map Prod.fst).Perm (bs.map Prod.fst) ∧
      ∀ e ∈ as, ∀ e' ∈ bs, e.1 = e'.1 → e.2.Equals e'.2 := by
  constructor
  · intro h
    cases h with
    | number ha => cases ha
    | dict hkeys h => exact ⟨hkeys, h⟩
  · rintro ⟨hkeys, h⟩
    exact .dict hkeys h

theorem tuple_same_iff {as bs : List Value} :
    (tuple as).Same (tuple bs) ↔ List.Forall₂ Same as bs := by
  rw [Same, canonical, canonical, tuple.injEq, canonicalItems_eq_iff]

theorem list_same_iff {as bs : List Value} :
    (list as).Same (list bs) ↔ List.Forall₂ Same as bs := by
  rw [Same, canonical, canonical, list.injEq, canonicalItems_eq_iff]

theorem dict_same_iff {as bs : List (String × Value)} (has : (as.map Prod.fst).Nodup)
    (hbs : (bs.map Prod.fst).Nodup) :
    (dict as).Same (dict bs) ↔ (as.map Prod.fst).Perm (bs.map Prod.fst) ∧
      ∀ e ∈ as, ∀ e' ∈ bs, e.1 = e'.1 → e.2.Same e'.2 := by
  rw [Same, canonical, canonical, dict.injEq, canonicalEntries_eq_iff has hbs]

/-- Identifiers mean the same if and only if they are equal. -/
theorem same_iff_equals (ha : a.IsIdentifier) (hb : b.IsIdentifier) :
    a.Same b ↔ a.Equals b := by
  induction ha generalizing b with
  | bool | int | float => exact same_iff_equals_of_number? rfl
  | null =>
    cases hb with
    | null => exact iff_of_true rfl .null
    | _ => exact same_iff_equals_of_kind_ne nofun
  | text s =>
    cases hb with
    | text s' =>
      constructor
      · intro h
        obtain rfl : s = s' := Value.text.inj h
        exact .text s
      · intro h
        cases h with
        | number ha => cases ha
        | text => exact .refl _
    | _ => exact same_iff_equals_of_kind_ne nofun
  | tuple _ ih =>
    cases hb with
    | tuple hbs =>
      rw [tuple_same_iff, tuple_equals_iff]
      exact forall₂_iff_of_mem fun v hv w hw => ih v hv (hbs w hw)
    | _ => exact same_iff_equals_of_kind_ne nofun
  | list _ ih =>
    cases hb with
    | list hbs =>
      rw [list_same_iff, list_equals_iff]
      exact forall₂_iff_of_mem fun v hv w hw => ih v hv (hbs w hw)
    | _ => exact same_iff_equals_of_kind_ne nofun
  | dict has _ ih =>
    cases hb with
    | dict hbs hvalues =>
      rw [dict_same_iff has hbs, dict_equals_iff]
      exact and_congr_right fun _ => forall₂_congr fun e he => forall₂_congr fun e' he' =>
        imp_congr_right fun _ => ih e he (hvalues e' he')
    | _ => exact same_iff_equals_of_kind_ne nofun

end Value

end Vicinity
