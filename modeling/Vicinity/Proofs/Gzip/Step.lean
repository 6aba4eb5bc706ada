import Mathlib.Tactic.SplitIfs
import Vicinity.Gzip

/-!
# Members step by step

`Gzip.skipHead` skips the fields of a head one after another, each only if its flag is set
(`Gzip.skipFields`). A field that a zero byte ends goes up to the first of them. What a member
comes to is what its data is inflated to, and what its tail is then found to be.
-/

namespace Vicinity

namespace Gzip

/-! ## Heads -/

/-- A step through a head skips bytes, or fails. -/
abbrev Step := List UInt8 → Except GzipError (List UInt8)

/-- Take a step only if its field is there. -/
def skipIf (there : Prop) [Decidable there] (step : Step) : Step :=
  if there then step else fun bytes => .ok bytes

/-- Skip a field that a zero byte ends, which never fails. -/
def passText : Step := fun bytes => .ok (skipText bytes)

/-- Skip the fields that the flags tell. -/
def skipFields (flags : UInt8) (bytes : List UInt8) : Except GzipError (List UInt8) := do
  let rest ← skipIf (flags &&& 4 ≠ 0) skipExtra bytes
  let rest ← skipIf (flags &&& 8 ≠ 0) passText rest
  let rest ← skipIf (flags &&& 16 ≠ 0) passText rest
  skipIf (flags &&& 2 ≠ 0) (skip 2) rest

theorem skip_append {n : Nat} {bytes : List UInt8} (h : bytes.length = n) (rest : List UInt8) :
    skip n (bytes ++ rest) = .ok rest := by
  rw [skip, if_pos (by simp [h]), ← h, List.drop_left]

theorem skip_of_lt {n : Nat} {bytes : List UInt8} (h : bytes.length < n) :
    skip n bytes = .error .truncated := by
  rw [skip, if_neg (by omega)]

theorem dropWhile_append_of_not_mem {text : List UInt8} (h : 0 ∉ text) (rest : List UInt8) :
    (text ++ rest).dropWhile (· ≠ 0) = rest.dropWhile (· ≠ 0) := by
  refine List.dropWhile_append_of_pos fun b hb => ?_
  rw [decide_eq_true_iff]
  rintro rfl
  exact h hb

theorem skipText_append {text : List UInt8} (h : 0 ∉ text) (rest : List UInt8) :
    skipText (text ++ 0 :: rest) = rest := by
  rw [skipText, dropWhile_append_of_not_mem h]
  rfl

theorem skipText_of_not_mem {bytes : List UInt8} (h : 0 ∉ bytes) : skipText bytes = [] := by
  have hdrop := dropWhile_append_of_not_mem h []
  rw [List.append_nil] at hdrop
  rw [skipText, hdrop]
  rfl

/-- A head of the known method is six bytes after its flags, and the fields. -/
theorem skipHead_cons (method flags : UInt8) (rest : List UInt8) :
    skipHead (method :: flags :: rest) = (do
      let rest ← skip 6 rest
      if method ≠ 8 then throw .unknownMethod
      skipFields flags rest) := by
  have hskip : skip 8 (method :: flags :: rest) = skip 6 rest := by
    simp [skip]
  simp only [skipHead, hskip]
  cases skip 6 rest with
  | error e => rfl
  | ok rest =>
    simp only [skipFields, skipIf]
    split
    · rfl
    · split_ifs <;> rfl

/-! ## Members -/

theorem isCompressed_iff {bytes : List UInt8} :
    isCompressed bytes = true ↔ ∃ rest, bytes = 0x1f :: 0x8b :: rest := by
  unfold isCompressed
  split
  · simp
  · rename_i hne
    refine iff_of_false Bool.false_ne_true ?_
    rintro ⟨rest, rfl⟩
    exact hne rest rfl

section

variable [Platform] {bytes data content : List UInt8}

theorem member_of_inflate {tail : List UInt8} (hc : isCompressed bytes = true)
    (hh : skipHead (bytes.drop 2) = .ok data) (hi : Deflate.inflate data = ⟨content, .ok tail⟩) :
    member bytes = (Platform.cut bytes content, checkTail content tail) := by
  simp only [member, hc, hh, hi, Bool.not_true, Bool.false_eq_true, if_false]

theorem member_of_starved (hc : isCompressed bytes = true)
    (hh : skipHead (bytes.drop 2) = .ok data)
    (hi : Deflate.inflate data = ⟨content, .error .starved⟩) :
    member bytes = (Platform.cut bytes content, .error .truncated) := by
  simp only [member, hc, hh, hi, Bool.not_true, Bool.false_eq_true, if_false]

theorem member_of_head {e : GzipError} (hc : isCompressed bytes = true)
    (hh : skipHead (bytes.drop 2) = .error e) : member bytes = ([], .error e) := by
  simp only [member, hc, hh, Bool.not_true, Bool.false_eq_true, if_false]

/-- A member that is read to its end has a head, data and a tail. -/
theorem exists_of_member_ok {pieces : List (List UInt8)} {rest : List UInt8}
    (h : member bytes = (pieces, .ok rest)) :
    ∃ data content tail, isCompressed bytes = true ∧ skipHead (bytes.drop 2) = .ok data ∧
      Deflate.inflate data = ⟨content, .ok tail⟩ ∧ pieces = Platform.cut bytes content ∧
      checkTail content tail = .ok rest := by
  cases hc : isCompressed bytes with
  | false =>
    simp only [member, hc, Bool.not_false, if_true] at h
    cases h
  | true =>
    cases hh : skipHead (bytes.drop 2) with
    | error e =>
      rw [member_of_head hc hh] at h
      cases h
    | ok data =>
      rcases hi : Deflate.inflate data with ⟨content, (_ | f) | tail⟩
      · rw [member_of_starved hc hh hi] at h
        cases h
      · simp only [member, hc, hh, hi, Bool.not_true, Bool.false_eq_true, if_false] at h
        cases h
      · rw [member_of_inflate hc hh hi] at h
        obtain ⟨rfl, htail⟩ := Prod.mk.inj h
        exact ⟨data, content, tail, rfl, rfl, hi, rfl, htail⟩

end

/-! ## Tails -/

theorem checkTail_of_lt {content tail : List UInt8} (h : tail.length < 8) :
    checkTail content tail = .error .truncated := by
  rw [checkTail, skip_of_lt h]
  rfl

/-- What follows a tail that is right are the bytes after the first eight. -/
theorem eq_drop_of_checkTail {content tail rest : List UInt8}
    (h : checkTail content tail = .ok rest) : 8 ≤ tail.length ∧ rest = tail.drop 8 := by
  rcases Nat.lt_or_ge tail.length 8 with hlt | hge
  · rw [checkTail_of_lt hlt] at h
    cases h
  · refine ⟨hge, ?_⟩
    have hskip : skip 8 tail = .ok (tail.drop 8) := if_pos hge
    rw [checkTail, hskip] at h
    simp only [Bind.bind, Except.bind] at h
    split at h
    · cases h
    · split at h
      · cases h
      · cases h
        rfl

/-! ## Files -/

section

variable [Platform]

theorem members_of_error {todo : Nat} {bytes : List UInt8} {pieces : List (List UInt8)}
    {e : GzipError} (hne : bytes ≠ []) (h : member bytes = (pieces, .error e)) :
    members (todo + 1) bytes = ⟨pieces, some e⟩ := by
  cases bytes with
  | nil => exact absurd rfl hne
  | cons b bytes => simp only [members, h]

theorem members_of_ok {todo : Nat} {bytes rest : List UInt8} {pieces : List (List UInt8)}
    (hne : bytes ≠ []) (h : member bytes = (pieces, .ok rest)) :
    members (todo + 1) bytes = ⟨pieces ++ (members todo (rest.dropWhile (· = 0))).pieces,
      (members todo (rest.dropWhile (· = 0))).failure⟩ := by
  cases bytes with
  | nil => exact absurd rfl hne
  | cons b bytes => simp only [members, h]

theorem members_nil (todo : Nat) : members todo [] = ⟨[], none⟩ := by
  cases todo <;> rfl

theorem deliver_of_not_isCompressed {bytes : List UInt8} (h : isCompressed bytes = false) :
    deliver bytes = Delivery.ofBytes bytes := by
  rw [deliver, h, if_neg Bool.false_ne_true]

theorem deliver_of_isCompressed {bytes : List UInt8} (hc : isCompressed bytes = true) :
    bytes ≠ [] ∧ ∃ todo, bytes.length = todo + 1 ∧ deliver bytes = members (todo + 1) bytes := by
  obtain ⟨rest, rfl⟩ := isCompressed_iff.mp hc
  exact ⟨List.cons_ne_nil _ _, _, rfl, if_pos hc⟩

end

end Gzip

end Vicinity
