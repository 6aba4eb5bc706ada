import Mathlib.Data.List.Nodup
import Vicinity.Json.Reader
import Vicinity.Proofs.Except
import Vicinity.Proofs.Text.Numeral

/-!
# Values that a text can hold

A text can hold the values that `Json.IsReadable` describes : no tuples, no whole numbers of too
many digits, no key twice, and not too many levels. Whatever is read is such a value
(`Json.isReadable_of_read`) : the readers of values, items and members preserve it, and storing
under a key that is there already adds no second one (`Json.nodup_setEntry`).
-/

namespace Vicinity

namespace Json

/-! ## Values that a text can hold -/

/-- Whether a text can hold a value, nested at most as many levels deep. -/
inductive IsReadable : Nat → Value → Prop
  | null (depth : Nat) : IsReadable depth .null
  | bool (depth : Nat) (b : Bool) : IsReadable depth (.bool b)
  | int (depth : Nat) {n : Int} (h : (Nat.toDigits 10 n.natAbs).length ≤ Value.maxDigits) :
    IsReadable depth (.int n)
  | float (depth : Nat) (x : Binary64) : IsReadable depth (.float x)
  | text (depth : Nat) (s : String) : IsReadable depth (.text s)
  | list {depth : Nat} {items : List Value} (h : ∀ v ∈ items, IsReadable depth v) :
    IsReadable (depth + 1) (.list items)
  | dict {depth : Nat} {entries : List (String × Value)} (hkeys : (entries.map Prod.fst).Nodup)
    (h : ∀ e ∈ entries, IsReadable depth e.2) : IsReadable (depth + 1) (.dict entries)

/-! ## Numbers -/

/-- The digits of a number that is read are as many as its text has, or fewer. -/
theorem length_toDigits_digitsValue_le {digits : List Char} (hne : digits ≠ [])
    (h : ∀ c ∈ digits, c.isDigit) :
    (Nat.toDigits 10 (digitsValue digits)).length ≤ digits.length := by
  rw [Nat.length_toDigits_le_iff (by omega) (List.length_pos_iff.mpr hne)]
  clear hne
  induction digits using List.reverseRecOn with
  | nil => exact Nat.one_pos
  | append_singleton digits c ih =>
    obtain ⟨hdigits, hc⟩ := List.forall_mem_append.mp h
    have hvalue :
        digitsValue (digits ++ [c]) = 10 * digitsValue digits + (c.toNat - '0'.toNat) := by
      simp [digitsValue]
    have hlast : c.toNat - '0'.toNat < 10 := by
      have hle := (Char.isDigit_iff_toNat.mp (hc c List.mem_cons_self)).2
      have hzero : '0'.toNat = 48 := rfl
      have hnine : '9'.toNat = 57 := rfl
      omega
    rw [hvalue, List.length_append, List.length_singleton, Nat.pow_succ]
    have := ih hdigits
    omega

/-- The digits before the point are digits. -/
theorem isDigit_of_readWhole {cs whole rest : List Char} (h : readWhole cs = some (whole, rest)) :
    whole ≠ [] ∧ ∀ c ∈ whole, c.isDigit := by
  rw [readWhole.eq_def] at h
  split at h
  · cases h
    exact ⟨by simp, by simp⟩
  · split at h
    · rename_i c rest' _ hc
      cases h
      refine ⟨by simp, List.forall_mem_cons.mpr ⟨hc, fun d hd => ?_⟩⟩
      exact List.mem_takeWhile_imp hd
    · cases h
  · cases h

theorem isReadable_of_readNumber {cs rest : List Char} {v : Value} (depth : Nat)
    (h : readNumber cs = .ok (v, rest)) : IsReadable depth v := by
  have hint (negative : Bool) {cs whole rest : List Char}
      (hwhole : readWhole cs = some (whole, rest)) (hlength : ¬ Value.maxDigits < whole.length) :
      IsReadable depth (.int (if negative then -digitsValue whole else digitsValue whole)) := by
    obtain ⟨hne, hdigit⟩ := isDigit_of_readWhole hwhole
    refine .int depth (le_trans ?_ (not_lt.mp hlength))
    cases negative <;> simpa using length_toDigits_digitsValue_le hne hdigit
  rw [readNumber.eq_def] at h
  split at h
  rename_i negative cs' _
  split at h
  · cases h
  · rename_i whole rest' hwhole
    split at h
    · split at h
      · cases h
      · rename_i hlength
        cases h
        exact hint negative hwhole hlength
    · cases h
      exact .float depth _
    · cases h
      exact .float depth _

theorem isReadable_of_readScalar {cs rest : List Char} {v : Value} (depth : Nat)
    (h : readScalar cs = .ok (v, rest)) : IsReadable depth v := by
  rw [readScalar] at h
  split at h
  · rename_i read hread
    cases h
    obtain ⟨w, hw, hread⟩ := List.exists_of_findSome?_eq_some hread
    obtain ⟨rest', -, heq⟩ := Option.map_eq_some_iff.mp hread
    cases heq
    have hwords : ∀ w ∈ words, IsReadable depth w.2 := by
      simp only [words, List.forall_mem_cons]
      exact ⟨.null _, .bool _ _, .bool _ _, .float _ _, .float _ _, .float _ _, by simp⟩
    exact hwords w hw
  · exact isReadable_of_readNumber depth h

/-! ## Entries -/

theorem forall_mem_setEntry {p : Value → Prop} (key : String) {v : Value}
    {entries : List (String × Value)} (hv : p v) (h : ∀ e ∈ entries, p e.2) :
    ∀ e ∈ Value.setEntry key v entries, p e.2 := by
  induction entries with
  | nil => simpa [Value.setEntry] using hv
  | cons e entries ih =>
    obtain ⟨he, hentries⟩ := List.forall_mem_cons.mp h
    rw [Value.setEntry]
    split
    · exact List.forall_mem_cons.mpr ⟨hv, hentries⟩
    · exact List.forall_mem_cons.mpr ⟨he, ih hentries⟩

theorem map_fst_setEntry (key : String) (v : Value) (entries : List (String × Value)) :
    (Value.setEntry key v entries).map Prod.fst =
      if key ∈ entries.map Prod.fst then entries.map Prod.fst
      else entries.map Prod.fst ++ [key] := by
  induction entries with
  | nil => rfl
  | cons e entries ih =>
    rw [Value.setEntry]
    by_cases he : e.1 = key
    · simp [he]
    · rw [if_neg he, List.map_cons, ih]
      by_cases hmem : key ∈ entries.map Prod.fst
      · have hmem' : key ∈ (e :: entries).map Prod.fst := List.mem_cons_of_mem _ hmem
        rw [if_pos hmem, if_pos hmem', List.map_cons]
      · have hmem' : key ∉ (e :: entries).map Prod.fst := by
          simpa [Ne.symm he] using hmem
        rw [if_neg hmem, if_neg hmem', List.map_cons, List.cons_append]

theorem nodup_setEntry (key : String) (v : Value) {entries : List (String × Value)}
    (h : (entries.map Prod.fst).Nodup) : ((Value.setEntry key v entries).map Prod.fst).Nodup := by
  rw [map_fst_setEntry]
  split
  · exact h
  · rename_i hnot
    exact List.nodup_append.mpr ⟨h, by simp, fun a ha b hb hab => by simp_all⟩

/-! ## Whole texts -/

/-- What the readers of values, items and members give within some steps can be held by a text. -/
structure ReadsReadable (todo : Nat) : Prop where
  value : ∀ {depth cs v rest}, readValue todo depth cs = .ok (v, rest) → IsReadable depth v
  items : ∀ {depth cs vs rest}, readItems todo depth cs = .ok (vs, rest) →
    ∀ v ∈ vs, IsReadable depth v
  members : ∀ {depth done cs entries rest}, (done.map Prod.fst).Nodup →
    (∀ e ∈ done, IsReadable depth e.2) →
    readMembers todo depth done cs = .ok (entries, rest) →
    (entries.map Prod.fst).Nodup ∧ ∀ e ∈ entries, IsReadable depth e.2

namespace ReadsReadable

variable {todo depth : Nat} {cs rest : List Char}

theorem readValue (ih : ReadsReadable todo) {v : Value}
    (h : Json.readValue (todo + 1) depth cs = .ok (v, rest)) : IsReadable depth v := by
  rw [readValue.eq_def] at h
  dsimp only at h
  split at h
  · -- a string
    obtain ⟨read, -, heq⟩ := exists_of_map_eq_ok h
    cases heq
    exact .text depth _
  · -- an array
    split at h
    · cases h
    · cases h
      exact .list (by simp)
    · obtain ⟨⟨vs, rest'⟩, hread, heq⟩ := exists_of_map_eq_ok h
      cases heq
      exact .list (ih.items hread)
  · -- an object
    split at h
    · cases h
    · cases h
      exact .dict (by simp) (by simp)
    · obtain ⟨⟨entries, rest'⟩, hread, heq⟩ := exists_of_map_eq_ok h
      cases heq
      obtain ⟨hkeys, hentries⟩ := ih.members (by simp) (by simp) hread
      exact .dict hkeys hentries
  · exact isReadable_of_readScalar depth h

theorem readItems (ih : ReadsReadable todo) {vs : List Value}
    (h : Json.readItems (todo + 1) depth cs = .ok (vs, rest)) : ∀ v ∈ vs, IsReadable depth v := by
  rw [Json.readItems] at h
  split at h
  · cases h
  · rename_i v rest' hv
    split at h
    · obtain ⟨⟨vs', rest''⟩, hread, heq⟩ := exists_of_map_eq_ok h
      cases heq
      exact List.forall_mem_cons.mpr ⟨ih.value hv, ih.items hread⟩
    · cases h
      exact List.forall_mem_cons.mpr ⟨ih.value hv, by simp⟩
    · cases h

theorem readMembers (ih : ReadsReadable todo) {done entries : List (String × Value)}
    (hkeys : (done.map Prod.fst).Nodup) (hdone : ∀ e ∈ done, IsReadable depth e.2)
    (h : Json.readMembers (todo + 1) depth done cs = .ok (entries, rest)) :
    (entries.map Prod.fst).Nodup ∧ ∀ e ∈ entries, IsReadable depth e.2 := by
  rw [readMembers.eq_def] at h
  dsimp only at h
  split at h
  · split at h
    · cases h
    · split at h
      · split at h
        · cases h
        · rename_i key _ _ _ _ _ _ v _ hv
          have hkeys' := nodup_setEntry key v hkeys
          have hdone' := forall_mem_setEntry key (ih.value hv) hdone
          split at h
          · exact ih.members hkeys' hdone' h
          · cases h
            exact ⟨hkeys', hdone'⟩
          · cases h
      · cases h
  · cases h

end ReadsReadable

theorem readsReadable (todo : Nat) : ReadsReadable todo := by
  induction todo with
  | zero =>
    refine ⟨fun h => ?_, fun h => ?_, fun _ _ h => ?_⟩
    all_goals cases h
  | succ todo ih => exact ⟨ih.readValue, ih.readItems, ih.readMembers⟩

/-- What is read is a value that a text can hold. -/
theorem isReadable_of_read {s : String} {v : Value} (h : read s = .ok v) :
    IsReadable maxDepth v := by
  rw [read] at h
  split at h
  · cases h
  · rename_i hread
    split at h
    · cases h
      exact (readsReadable _).value hread
    · cases h

end Json

end Vicinity
