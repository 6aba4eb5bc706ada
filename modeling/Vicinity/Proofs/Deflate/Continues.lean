import Vicinity.Proofs.Deflate.Steady

/-!
# Data that breaks off

`Continues` compares a run of inflating with the one that has more whole bytes behind its bits :
a run that comes to its end or meets a fault is the same, with the bits left over, and one that
starves has made the first of the bytes that the other makes. `inflate_continues` says so of
compressed data as a whole.
-/

namespace Vicinity

namespace Deflate

/-! ## Bytes are only added -/

/-- The bytes of a run begin with the ones that were there before it. -/
def Extends (out : Array UInt8) (p : Progress) : Prop := out.toList <+: p.1.toList

theorem extends_self (out : Array UInt8) (ending : Except Halt (List Bool)) :
    Extends out (out, ending) := List.prefix_refl _

theorem extends_of_push {out : Array UInt8} {b : UInt8} {p : Progress}
    (h : Extends (out.push b) p) : Extends out p := by
  rw [Extends, Array.toList_push] at h
  exact (List.prefix_append _ _).trans h

theorem Extends.trans {out : Array UInt8} {p q : Progress} (h : Extends out p)
    (h' : Extends p.1 q) : Extends out q := List.IsPrefix.trans h h'

theorem prefix_copyBack (distance : Nat) : ∀ (length : Nat) (out : Array UInt8),
    out.toList <+: (copyBack out distance length).toList
  | 0, out => List.prefix_refl _
  | length + 1, out => by
    rw [copyBack]
    refine List.IsPrefix.trans ?_ (prefix_copyBack distance length _)
    rw [Array.toList_push]
    exact List.prefix_append _ _

theorem extends_inflateTokens (literals distances : Code) (out : Array UInt8) (bits : List Bool) :
    Extends out (inflateTokens literals distances out bits) := by
  fun_induction inflateTokens literals distances out bits with
  | case1 out bits halt h => exact extends_self out _
  | case2 out bits rest h => exact extends_self out _
  | case3 out bits b rest h ih => exact extends_of_push ih
  | case4 out bits distance length rest h hfar => exact extends_self out _
  | case5 out bits distance length rest h hfar ih =>
    exact List.IsPrefix.trans (prefix_copyBack distance length out) ih

theorem extends_inflateStored : ∀ (n : Nat) (out : Array UInt8) (bits : List Bool),
    Extends out (inflateStored out bits n)
  | 0, out, bits => extends_self out _
  | n + 1, out, bits => by
    rw [inflateStored]
    split
    · exact extends_self out _
    · exact extends_of_push (extends_inflateStored n _ _)

theorem extends_inflateBlock (kind : Nat) (out : Array UInt8) (bits : List Bool) :
    Extends out (inflateBlock kind out bits) := by
  unfold inflateBlock
  split
  · split
    · exact extends_self out _
    · exact extends_inflateStored _ _ _
  · exact extends_inflateTokens _ _ _ _
  · split
    · exact extends_self out _
    · exact extends_inflateTokens _ _ _ _
  · exact extends_self out _

theorem extends_inflateBlocks : ∀ (todo : Nat) (out : Array UInt8) (bits : List Bool),
    Extends out (inflateBlocks todo out bits)
  | 0, out, bits => extends_self out _
  | todo + 1, out, bits => by
    rw [inflateBlocks]
    split
    · exact extends_self out _
    · rename_i head rest _
      have hblock := extends_inflateBlock (head / 2) out rest
      split
      · rename_i out' halt h
        rw [h] at hblock
        exact hblock
      · rename_i out' rest' h
        rw [h] at hblock
        split
        · exact hblock
        · exact hblock.trans (extends_inflateBlocks todo out' rest')

/-! ## More bits -/

/-- What a run comes to when whole bytes follow its bits. -/
def Continues (later : List Bool) (p q : Progress) : Prop :=
  match p.2 with
  | .ok rest => q = (p.1, .ok (rest ++ later))
  | .error (.corrupt f) => q = (p.1, .error (.corrupt f))
  | .error .starved => Extends p.1 q

section

variable {later : List Bool} {out : Array UInt8} {q : Progress}

theorem Continues.eq_of_ok {rest : List Bool} (h : Continues later (out, .ok rest) q) :
    q = (out, .ok (rest ++ later)) := h

theorem Continues.eq_of_corrupt {f : Fault} (h : Continues later (out, .error (.corrupt f)) q) :
    q = (out, .error (.corrupt f)) := h

theorem Continues.extends_of_starved (h : Continues later (out, .error .starved) q) :
    Extends out q := h

end

section

variable {later : List Bool} (hlater : 8 ∣ later.length)

include hlater

/-- A reader that halts halts a run that extends the bytes there are. -/
theorem continues_of_halt {α : Type} {r : BitReader α} (hr : r.Steady) {out : Array UInt8}
    {bits : List Bool} {halt : Halt} {q : Progress} (h : r bits = .error halt)
    (hq : Extends out q)
    (hcorrupt : ∀ f, r (bits ++ later) = .error (.corrupt f) → q = (out, .error (.corrupt f))) :
    Continues later (out, .error halt) q := by
  cases halt with
  | starved => exact hq
  | corrupt f => exact hcorrupt f (hr.corrupt_append h later hlater)

theorem continues_inflateTokens (literals distances : Code) (out : Array UInt8)
    (bits : List Bool) :
    Continues later (inflateTokens literals distances out bits)
      (inflateTokens literals distances out (bits ++ later)) := by
  have hsteady := steady_readToken literals distances
  fun_induction inflateTokens literals distances out bits with
  | case1 out bits halt h =>
    exact continues_of_halt hlater hsteady h (extends_inflateTokens _ _ _ _)
      fun f hf => inflateTokens_of_error hf
  | case2 out bits rest h =>
    exact inflateTokens_of_endOfBlock (hsteady.ok_append h later hlater)
  | case3 out bits b rest h ih =>
    rw [inflateTokens_of_literal (hsteady.ok_append h later hlater)]
    exact ih
  | case4 out bits distance length rest h hfar =>
    rw [inflateTokens_of_copy (hsteady.ok_append h later hlater), if_pos hfar]
    rfl
  | case5 out bits distance length rest h hfar ih =>
    rw [inflateTokens_of_copy (hsteady.ok_append h later hlater), if_neg hfar]
    exact ih

theorem continues_inflateStored : ∀ (n : Nat) (out : Array UInt8) (bits : List Bool),
    Continues later (inflateStored out bits n) (inflateStored out (bits ++ later) n)
  | 0, out, bits => rfl
  | n + 1, out, bits => by
    have hq := extends_inflateStored (n + 1) out (bits ++ later)
    rw [inflateStored]
    split
    · rename_i halt h
      refine continues_of_halt hlater (BitReader.Steady.number 8) h hq fun f hf => ?_
      rw [inflateStored, hf]
    · rename_i b rest h
      rw [inflateStored, (BitReader.Steady.number 8).ok_append h later hlater]
      exact continues_inflateStored n (out.push b.toUInt8) rest

theorem continues_inflateBlock (kind : Nat) (out : Array UInt8) (bits : List Bool) :
    Continues later (inflateBlock kind out bits) (inflateBlock kind out (bits ++ later)) := by
  have hq := extends_inflateBlock kind out (bits ++ later)
  match kind with
  | 0 =>
    simp only [inflateBlock] at hq ⊢
    cases h : readStoredLength bits with
    | error halt =>
      exact continues_of_halt hlater steady_readStoredLength h hq fun f hf => by rw [hf]
    | ok p =>
      obtain ⟨length, rest⟩ := p
      rw [steady_readStoredLength.ok_append h later hlater]
      exact continues_inflateStored hlater length out rest
  | 1 => exact continues_inflateTokens hlater _ _ out bits
  | 2 =>
    simp only [inflateBlock] at hq ⊢
    cases h : readCodes bits with
    | error halt => exact continues_of_halt hlater steady_readCodes h hq fun f hf => by rw [hf]
    | ok p =>
      obtain ⟨⟨literals, distances⟩, rest⟩ := p
      rw [steady_readCodes.ok_append h later hlater]
      exact continues_inflateTokens hlater literals distances out rest
  | kind + 3 => rfl

/-- The longer run may try more blocks. The shorter one may give up for want of blocks to try,
which counts as starving. -/
theorem continues_inflateBlocks : ∀ {todo todo' : Nat}, todo ≤ todo' →
    ∀ (out : Array UInt8) (bits : List Bool),
      Continues later (inflateBlocks todo out bits) (inflateBlocks todo' out (bits ++ later))
  | 0, todo', _, out, bits => extends_inflateBlocks todo' out (bits ++ later)
  | todo + 1, todo' + 1, hle, out, bits => by
    have hq := extends_inflateBlocks (todo' + 1) out (bits ++ later)
    have hsteady := BitReader.Steady.number 3
    simp only [inflateBlocks] at hq ⊢
    cases h : BitReader.number 3 bits with
    | error halt => exact continues_of_halt hlater hsteady h hq fun f hf => by rw [hf]
    | ok p =>
      obtain ⟨head, rest⟩ := p
      simp only [hsteady.ok_append h later hlater] at hq ⊢
      have hblock := continues_inflateBlock hlater (head / 2) out rest
      rcases hb : inflateBlock (head / 2) out rest with ⟨out', halt | rest'⟩
      · rw [hb] at hblock
        cases halt with
        | starved =>
          -- the longer run goes on from what the longer block makes
          refine hblock.extends_of_starved.trans ?_
          rcases inflateBlock (head / 2) out (rest ++ later) with ⟨out'', halt | rest''⟩
          · exact extends_self _ _
          · dsimp only
            split
            · exact extends_self _ _
            · exact extends_inflateBlocks _ _ _
        | corrupt f =>
          rw [hblock.eq_of_corrupt]
          rfl
      · rw [hb] at hblock
        rw [hblock.eq_of_ok]
        dsimp only
        split
        · rfl
        · exact continues_inflateBlocks (Nat.le_of_succ_le_succ hle) out' rest'

end

/-! ## Compressed data -/

/-- Data that breaks off and is still inflated leaves less after it. Data that is inflated never
becomes faulty by breaking off, and makes the first of its bytes. -/
theorem inflate_continues {bytes later tail : List UInt8} {content : List UInt8}
    (h : inflate (bytes ++ later) = ⟨content, .ok tail⟩) :
    (∃ front, inflate bytes = ⟨content, .ok front⟩ ∧ tail = front ++ later) ∨
      ∃ made, inflate bytes = ⟨made, .error .starved⟩ ∧ made <+: content := by
  have hbits := length_bitsOfBytes bytes
  have hlater := length_bitsOfBytes later
  have htodo : (bitsOfBytes bytes).length + 1 ≤ (bitsOfBytes (bytes ++ later)).length + 1 := by
    rw [bitsOfBytes_append, List.length_append]
    omega
  have hc := continues_inflateBlocks ⟨_, hlater⟩ htodo #[] (bitsOfBytes bytes)
  rw [← bitsOfBytes_append] at hc
  simp only [inflate] at h ⊢
  rcases hp : inflateBlocks ((bitsOfBytes bytes).length + 1) #[] (bitsOfBytes bytes)
    with ⟨out, (_ | f) | rest⟩
  · rw [hp] at hc
    have hext := hc.extends_of_starved
    right
    refine ⟨out.toList, rfl, ?_⟩
    split at h
    · cases h
    · rename_i hq
      cases h
      rw [hq] at hext
      exact hext
  · rw [hp] at hc
    rw [hc.eq_of_corrupt] at h
    cases h
  · rw [hp] at hc
    rw [hc.eq_of_ok] at h
    cases h
    left
    refine ⟨_, rfl, ?_⟩
    have hdrop : (bytes ++ later).length - (rest ++ bitsOfBytes later).length / 8 =
        bytes.length - rest.length / 8 := by
      rw [List.length_append, List.length_append]
      omega
    rw [hdrop, List.drop_append_of_le_length (Nat.sub_le _ _)]

end Deflate

end Vicinity
