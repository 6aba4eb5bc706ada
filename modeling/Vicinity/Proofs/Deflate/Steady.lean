import Vicinity.Deflate.Inflate

/-!
# More bits

What a reader of bits comes to is settled unless it starves : more whole bytes behind the bits
are left over, or change nothing about a fault (`BitReader.Steady`). The bytes must be whole
because `BitReader.align` counts the bits that are left.

All readers that inflating is made of are steady.
-/

namespace Vicinity

namespace Deflate

/-! ## Bits of bytes -/

theorem length_bitsOfBytes (bytes : List UInt8) :
    (bitsOfBytes bytes).length = 8 * bytes.length := by
  induction bytes with
  | nil => rfl
  | cons b bytes ih =>
    rw [bitsOfBytes, List.flatMap_cons, List.length_append, ← bitsOfBytes, ih, bitsOfByte,
      List.length_map, List.length_range, List.length_cons]
    omega

theorem bitsOfBytes_append (bytes bytes' : List UInt8) :
    bitsOfBytes (bytes ++ bytes') = bitsOfBytes bytes ++ bitsOfBytes bytes' :=
  List.flatMap_append

/-! ## Readers -/

namespace BitReader

variable {α β : Type}

/-- More whole bytes change what a reader comes to only where it starves. -/
structure Steady (r : BitReader α) : Prop where
  ok_append : ∀ {s a rest}, r s = .ok (a, rest) → ∀ later : List Bool, 8 ∣ later.length →
    r (s ++ later) = .ok (a, rest ++ later)
  corrupt_append : ∀ {s f}, r s = .error (.corrupt f) → ∀ later : List Bool, 8 ∣ later.length →
    r (s ++ later) = .error (.corrupt f)

theorem bind_eq_of_ok {r : BitReader α} {k : α → BitReader β} {s rest : List Bool} {a : α}
    (h : r s = .ok (a, rest)) : (r >>= k) s = k a rest := by
  simp only [Bind.bind, StateT.bind, h, Except.bind]

theorem bind_eq_of_error {r : BitReader α} {k : α → BitReader β} {s : List Bool} {e : Halt}
    (h : r s = .error e) : (r >>= k) s = .error e := by
  simp only [Bind.bind, StateT.bind, h, Except.bind]

theorem Steady.pure (a : α) : Steady (Pure.pure a : BitReader α) where
  ok_append h later _ := by
    cases h
    rfl
  corrupt_append h := by cases h

theorem Steady.corrupt (f : Fault) : Steady (BitReader.corrupt f : BitReader α) where
  ok_append h := by cases h
  corrupt_append h later _ := by
    cases h
    rfl

theorem Steady.bind {r : BitReader α} {k : α → BitReader β} (hr : Steady r)
    (hk : ∀ a, Steady (k a)) : Steady (r >>= k) where
  ok_append {s b rest} h later hlater := by
    cases hs : r s with
    | error e =>
      rw [bind_eq_of_error hs] at h
      cases h
    | ok p =>
      obtain ⟨a, mid⟩ := p
      rw [bind_eq_of_ok hs] at h
      rw [bind_eq_of_ok (hr.ok_append hs later hlater)]
      exact (hk a).ok_append h later hlater
  corrupt_append {s f} h later hlater := by
    cases hs : r s with
    | error e =>
      rw [bind_eq_of_error hs] at h
      cases h
      exact bind_eq_of_error (hr.corrupt_append hs later hlater)
    | ok p =>
      obtain ⟨a, mid⟩ := p
      rw [bind_eq_of_ok hs] at h
      rw [bind_eq_of_ok (hr.ok_append hs later hlater)]
      exact (hk a).corrupt_append h later hlater

theorem Steady.map {r : BitReader α} (hr : Steady r) (g : α → β) : Steady (g <$> r) := by
  rw [map_eq_pure_bind]
  exact hr.bind fun a => Steady.pure (g a)

theorem bits_append : ∀ {n : Nat} {s bs rest : List Bool}, bits n s = .ok (bs, rest) →
    ∀ later, bits n (s ++ later) = .ok (bs, rest ++ later)
  | 0, s, bs, rest, h, later => by
    cases h
    rfl
  | n + 1, [], bs, rest, h, later => by cases h
  | n + 1, b :: s, bs, rest, h, later => by
    simp only [bits] at h
    split at h
    · rename_i hs
      cases h
      simp only [List.cons_append, bits, bits_append hs later]
    · cases h

theorem bits_ne_corrupt : ∀ {n : Nat} {s : List Bool} {f : Fault}, bits n s ≠ .error (.corrupt f)
  | 0, s, f, h => by cases h
  | n + 1, [], f, h => by cases h
  | n + 1, b :: s, f, h => by
    simp only [bits] at h
    split at h
    · cases h
    · rename_i hs
      cases h
      exact bits_ne_corrupt hs

theorem Steady.bits (n : Nat) : Steady (BitReader.bits n) where
  ok_append h later _ := bits_append h later
  corrupt_append h := absurd h bits_ne_corrupt

theorem Steady.number (n : Nat) : Steady (BitReader.number n) := (Steady.bits n).map ofBits

theorem Steady.align : Steady BitReader.align where
  ok_append {s a rest} h later hlater := by
    cases h
    have hmod : (s ++ later).length % 8 = s.length % 8 := by
      rw [List.length_append]
      omega
    rw [BitReader.align, hmod, List.drop_append_of_le_length (Nat.mod_le _ _)]
  corrupt_append h := by cases h

end BitReader

open BitReader

/-! ## Codes -/

theorem CodeTree.steady_read (f : Fault) : ∀ t : CodeTree, (t.read f).Steady
  | .none => Steady.corrupt f
  | .symbol s => Steady.pure s
  | .fork zero one =>
    { ok_append := fun {s a rest} h later hlater => by
        match s with
        | [] => cases h
        | false :: s => exact (steady_read f zero).ok_append h later hlater
        | true :: s => exact (steady_read f one).ok_append h later hlater
      corrupt_append := fun {s f'} h later hlater => by
        match s with
        | [] => cases h
        | false :: s => exact (steady_read f zero).corrupt_append h later hlater
        | true :: s => exact (steady_read f one).corrupt_append h later hlater }

/-- A code is read as the tree that forks into its two parts. -/
theorem Code.read_eq_fork (f : Fault) (code : Code) :
    code.read f = (CodeTree.fork code.zero code.one).read f := by
  funext bits
  match bits with
  | [] => rfl
  | false :: _ => rfl
  | true :: _ => rfl

theorem Code.steady_read (f : Fault) (code : Code) : (code.read f).Steady := by
  rw [read_eq_fork]
  exact CodeTree.steady_read f _

/-! ## Tokens -/

theorem steady_readEntry (table : List (Nat × Nat)) (f : Fault) (symbol : Nat) :
    (readEntry table f symbol).Steady := by
  unfold readEntry
  split
  · exact Steady.corrupt f
  · exact (Steady.number _).map _

theorem steady_readTokenAfter (distances : Code) (symbol : Nat) :
    (readTokenAfter distances symbol).Steady := by
  unfold readTokenAfter
  split
  · exact Steady.pure _
  split
  · exact Steady.pure _
  exact (steady_readEntry _ _ _).bind fun _ => (distances.steady_read _).bind fun _ =>
    (steady_readEntry _ _ _).bind fun _ => Steady.pure _

theorem steady_readToken (literals distances : Code) : (readToken literals distances).Steady :=
  (literals.steady_read _).bind fun _ => steady_readTokenAfter _ _

/-! ## One token of a run -/

section Token

variable {literals distances : Code} {out : Array UInt8} {bits rest : List Bool}

theorem inflateTokens_of_error {halt : Halt}
    (h : readToken literals distances bits = .error halt) :
    inflateTokens literals distances out bits = (out, .error halt) := by
  rw [inflateTokens]
  split <;> simp_all

theorem inflateTokens_of_endOfBlock
    (h : readToken literals distances bits = .ok (.endOfBlock, rest)) :
    inflateTokens literals distances out bits = (out, .ok rest) := by
  rw [inflateTokens]
  split <;> simp_all

theorem inflateTokens_of_literal {b : UInt8}
    (h : readToken literals distances bits = .ok (.literal b, rest)) :
    inflateTokens literals distances out bits =
      inflateTokens literals distances (out.push b) rest := by
  rw [inflateTokens]
  split <;> simp_all

theorem inflateTokens_of_copy {distance length : Nat}
    (h : readToken literals distances bits = .ok (.copy distance length, rest)) :
    inflateTokens literals distances out bits =
      if out.size < distance then (out, .error (.corrupt .distanceTooFar))
      else inflateTokens literals distances (copyBack out distance length) rest := by
  rw [inflateTokens]
  split
  · simp_all
  · simp_all
  · simp_all
  · rename_i h'
    rw [h] at h'
    cases h'
    rfl

end Token

/-! ## Codes that a block gives -/

theorem steady_readTriples : ∀ n, (readTriples n).Steady
  | 0 => Steady.pure []
  | n + 1 => (Steady.number 3).bind fun _ => (steady_readTriples n).bind fun _ => Steady.pure _

theorem steady_readRun (before : List Nat) (symbol : Nat) : (readRun before symbol).Steady := by
  unfold readRun
  split
  · exact Steady.pure _
  split
  · refine (Steady.number 2).bind fun n => ?_
    split
    · exact Steady.corrupt _
    · exact Steady.pure _
  split
  · exact (Steady.number 3).bind fun _ => Steady.pure _
  · exact (Steady.number 7).bind fun _ => Steady.pure _

theorem steady_readLengths (code : Code) (total : Nat) :
    ∀ todo before, (readLengths code total todo before).Steady
  | 0, before => Steady.pure before
  | todo + 1, before => by
    rw [readLengths]
    split
    · exact Steady.pure _
    refine (code.steady_read _).bind fun symbol => (steady_readRun before symbol).bind fun run => ?_
    split
    · exact Steady.corrupt _
    · exact steady_readLengths code total todo _

theorem steady_readCodes : readCodes.Steady := by
  unfold readCodes
  refine (Steady.number 14).bind fun counts => ?_
  dsimp only
  split
  · exact Steady.corrupt _
  refine (steady_readTriples _).bind fun triples => ?_
  split
  · refine (steady_readLengths _ _ _ _).bind fun lengths => ?_
    split
    · exact Steady.corrupt _
    split
    · split
      · exact Steady.pure _
      · exact Steady.corrupt _
    · exact Steady.corrupt _
  · exact Steady.corrupt _

theorem steady_readStoredLength : readStoredLength.Steady := by
  unfold readStoredLength
  refine Steady.align.bind fun _ => (Steady.number 32).bind fun both => ?_
  dsimp only
  split
  · exact Steady.pure _
  · exact Steady.corrupt _

end Deflate

end Vicinity
