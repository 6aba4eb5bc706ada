import Mathlib.Tactic.SplitIfs
import Vicinity.Proofs.Bytes
import Vicinity.Proofs.Text.Codec
import Vicinity.Text.Codec.Utf8

/-!
# UTF-8

The codec reads a character exactly where its UTF-8 form stands, so it reads the texts that are
encoded as UTF-8 and no other bytes : overlong forms, surrogates and numbers above `10FFFF` are
left out by the ranges of the second byte (`Utf8.isSecond_iff`).
-/

namespace Vicinity

namespace Text

namespace Utf8

/-! ## Ranges -/

theorem isContinuation_iff {b : UInt8} : isContinuation b ↔ 0x80 ≤ b.toNat ∧ b.toNat ≤ 0xbf := by
  simp [isContinuation, UInt8.le_iff_toNat_le]

theorem isSecond_iff {b b₁ : UInt8} :
    isSecond b b₁ ↔ (0x80 ≤ b₁.toNat ∧ b₁.toNat ≤ 0xbf) ∧
      (b.toNat = 0xe0 → 0xa0 ≤ b₁.toNat) ∧ (b.toNat = 0xed → b₁.toNat ≤ 0x9f) ∧
      (b.toNat = 0xf0 → 0x90 ≤ b₁.toNat) ∧ (b.toNat = 0xf4 → b₁.toNat ≤ 0x8f) := by
  simp only [isSecond, secondRange, ← UInt8.toNat_inj, Bool.and_eq_true, decide_eq_true_eq,
    UInt8.le_iff_toNat_le, UInt8.reduceToNat]
  split_ifs <;> simp only [UInt8.reduceToNat] <;> omega

/-! ## The forms of characters -/

theorem encodeChar_ofNat {v : Nat} (h : v.isValidChar) :
    String.utf8EncodeChar (Char.ofNat v) =
      if v ≤ 0x7f then [v.toUInt8]
      else if v ≤ 0x7ff then [(v / 64 % 32 + 0xc0).toUInt8, (v % 64 + 0x80).toUInt8]
      else if v ≤ 0xffff then
        [(v / 4096 % 16 + 0xe0).toUInt8, (v / 64 % 64 + 0x80).toUInt8, (v % 64 + 0x80).toUInt8]
      else
        [(v / 262144 % 8 + 0xf0).toUInt8, (v / 4096 % 64 + 0x80).toUInt8,
          (v / 64 % 64 + 0x80).toUInt8, (v % 64 + 0x80).toUInt8] := by
  have hv : (Char.ofNat v).val.toNat = v := toNat_ofNat_of_isValidChar h
  simp only [String.utf8EncodeChar, hv, Nat.toUInt8_eq]

/-- The number of a character that is read with a second byte is in the range of its form. -/
theorem isValidChar_addBits₃ {b b₁ : UInt8} (b₂ : UInt8) (hlo : 0xe0 ≤ b.toNat)
    (hhi : b.toNat < 0xf0) (h₁ : isSecond b b₁) :
    (addBits (addBits (b.toNat % 16) b₁) b₂).isValidChar ∧
      0x7ff < addBits (addBits (b.toNat % 16) b₁) b₂ ∧
      addBits (addBits (b.toNat % 16) b₁) b₂ ≤ 0xffff := by
  rw [isSecond_iff] at h₁
  simp only [addBits, Nat.isValidChar]
  omega

theorem isValidChar_addBits₄ {b b₁ : UInt8} (b₂ b₃ : UInt8) (hlo : 0xf0 ≤ b.toNat)
    (hhi : b.toNat < 0xf5) (h₁ : isSecond b b₁) :
    (addBits (addBits (addBits (b.toNat % 8) b₁) b₂) b₃).isValidChar ∧
      0xffff < addBits (addBits (addBits (b.toNat % 8) b₁) b₂) b₃ := by
  rw [isSecond_iff] at h₁
  simp only [addBits, Nat.isValidChar]
  omega

theorem encodeChar_of_step2 {b : UInt8} {rest : List UInt8} {c : Char} {more : Nat}
    (hlo : 0xc2 ≤ b.toNat) (hhi : b.toNat < 0xe0) (h : step2 b rest = .char c more) :
    more ≤ rest.length ∧ String.utf8EncodeChar c = b :: rest.take more := by
  match rest with
  | [] => cases h
  | b₁ :: rest =>
    simp only [step2] at h
    split at h
    · rename_i h₁
      cases h
      rw [isContinuation_iff] at h₁
      have hv : (addBits (b.toNat % 32) b₁).isValidChar := Or.inl (by simp only [addBits]; omega)
      refine ⟨Nat.succ_le_succ (Nat.zero_le _), ?_⟩
      rw [encodeChar_ofNat hv, addBits, if_neg (by omega), if_pos (by omega),
        toUInt8_eq (b := b) (by omega), toUInt8_eq (b := b₁) (by omega)]
      rfl
    · cases h

theorem encodeChar_of_step3 {b : UInt8} {rest : List UInt8} {c : Char} {more : Nat}
    (hlo : 0xe0 ≤ b.toNat) (hhi : b.toNat < 0xf0) (h : step3 b rest = .char c more) :
    more ≤ rest.length ∧ String.utf8EncodeChar c = b :: rest.take more := by
  match rest with
  | [] => cases h
  | [b₁] => simp only [step3] at h; split at h <;> cases h
  | b₁ :: b₂ :: rest =>
    simp only [step3] at h
    split at h
    · rename_i h₁
      split at h
      · rename_i h₂
        cases h
        obtain ⟨hv, hmin, hmax⟩ := isValidChar_addBits₃ b₂ hlo hhi h₁
        rw [isSecond_iff] at h₁
        rw [isContinuation_iff] at h₂
        refine ⟨by simp, ?_⟩
        rw [encodeChar_ofNat hv, if_neg (by omega), if_neg (by omega), if_pos hmax]
        simp only [addBits]
        rw [toUInt8_eq (b := b) (by omega), toUInt8_eq (b := b₁) (by omega),
          toUInt8_eq (b := b₂) (by omega)]
        rfl
      · cases h
    · cases h

theorem encodeChar_of_step4 {b : UInt8} {rest : List UInt8} {c : Char} {more : Nat}
    (hlo : 0xf0 ≤ b.toNat) (hhi : b.toNat < 0xf5) (h : step4 b rest = .char c more) :
    more ≤ rest.length ∧ String.utf8EncodeChar c = b :: rest.take more := by
  match rest with
  | [] => cases h
  | [b₁] => simp only [step4] at h; split at h <;> cases h
  | [b₁, b₂] => simp only [step4] at h; split at h <;> (try split at h) <;> cases h
  | b₁ :: b₂ :: b₃ :: rest =>
    simp only [step4] at h
    split at h
    · rename_i h₁
      split at h
      · rename_i h₂
        split at h
        · rename_i h₃
          cases h
          obtain ⟨hv, hmin⟩ := isValidChar_addBits₄ b₂ b₃ hlo hhi h₁
          rw [isSecond_iff] at h₁
          rw [isContinuation_iff] at h₂ h₃
          refine ⟨by simp, ?_⟩
          rw [encodeChar_ofNat hv, if_neg (by omega), if_neg (by omega), if_neg (by omega)]
          simp only [addBits]
          rw [toUInt8_eq (b := b) (by omega), toUInt8_eq (b := b₁) (by omega),
            toUInt8_eq (b := b₂) (by omega), toUInt8_eq (b := b₃) (by omega)]
          rfl
        · cases h
      · cases h
    · cases h

/-- Where a character is read, its form stands. -/
theorem encodeChar_of_step {b : UInt8} {rest : List UInt8} {c : Char} {more : Nat}
    (h : step b rest = .char c more) :
    more ≤ rest.length ∧ String.utf8EncodeChar c = b :: rest.take more := by
  have hlt := b.toNat_lt
  simp only [step, UInt8.lt_iff_toNat_lt, UInt8.reduceToNat] at h
  split at h
  · cases h
    have hv : b.toNat.isValidChar := Or.inl (by omega)
    rw [encodeChar_ofNat hv, if_pos (by omega), toUInt8_toNat]
    exact ⟨Nat.zero_le _, rfl⟩
  split at h
  · cases h
  split at h
  · exact encodeChar_of_step2 (by omega) (by omega) h
  split at h
  · exact encodeChar_of_step3 (by omega) (by omega) h
  split at h
  · exact encodeChar_of_step4 (by omega) (by omega) h
  · cases h

/-! ## Reading a form -/

theorem step_of_lt {b : UInt8} (rest : List UInt8) (h : b.toNat < 0x80) :
    step b rest = .char (Char.ofNat b.toNat) 0 := by
  simp only [step, UInt8.lt_iff_toNat_lt, UInt8.reduceToNat, if_pos h]

theorem step_eq_step2 {b : UInt8} (rest : List UInt8) (hlo : 0xc2 ≤ b.toNat)
    (hhi : b.toNat < 0xe0) : step b rest = step2 b rest := by
  simp only [step, UInt8.lt_iff_toNat_lt, UInt8.reduceToNat]
  rw [if_neg (by omega), if_neg (by omega), if_pos hhi]

theorem step_eq_step3 {b : UInt8} (rest : List UInt8) (hlo : 0xe0 ≤ b.toNat)
    (hhi : b.toNat < 0xf0) : step b rest = step3 b rest := by
  simp only [step, UInt8.lt_iff_toNat_lt, UInt8.reduceToNat]
  rw [if_neg (by omega), if_neg (by omega), if_neg (by omega), if_pos hhi]

theorem step_eq_step4 {b : UInt8} (rest : List UInt8) (hlo : 0xf0 ≤ b.toNat)
    (hhi : b.toNat < 0xf5) : step b rest = step4 b rest := by
  simp only [step, UInt8.lt_iff_toNat_lt, UInt8.reduceToNat]
  rw [if_neg (by omega), if_neg (by omega), if_neg (by omega), if_neg (by omega), if_pos hhi]

theorem step_form2 {v : Nat} (hlo : 0x7f < v) (hhi : v ≤ 0x7ff) (rest : List UInt8) :
    step (v / 64 % 32 + 0xc0).toUInt8 ((v % 64 + 0x80).toUInt8 :: rest) =
      .char (Char.ofNat v) 1 := by
  have hb := toNat_toUInt8 (n := v / 64 % 32 + 0xc0) (by omega)
  have hb₁ := toNat_toUInt8 (n := v % 64 + 0x80) (by omega)
  rw [step_eq_step2 _ (by omega) (by omega), step2, if_pos (isContinuation_iff.mpr (by omega)),
    addBits, hb, hb₁]
  congr 2
  omega

theorem step_form3 {v : Nat} (hv : v.isValidChar) (hlo : 0x7ff < v) (hhi : v ≤ 0xffff)
    (rest : List UInt8) :
    step (v / 4096 % 16 + 0xe0).toUInt8
        ((v / 64 % 64 + 0x80).toUInt8 :: (v % 64 + 0x80).toUInt8 :: rest) =
      .char (Char.ofNat v) 2 := by
  have hb := toNat_toUInt8 (n := v / 4096 % 16 + 0xe0) (by omega)
  have hb₁ := toNat_toUInt8 (n := v / 64 % 64 + 0x80) (by omega)
  have hb₂ := toNat_toUInt8 (n := v % 64 + 0x80) (by omega)
  simp only [Nat.isValidChar] at hv
  rw [step_eq_step3 _ (by omega) (by omega), step3, if_pos (isSecond_iff.mpr (by omega))]
  simp only [if_pos (isContinuation_iff.mpr (show 0x80 ≤ (v % 64 + 0x80).toUInt8.toNat ∧
    (v % 64 + 0x80).toUInt8.toNat ≤ 0xbf by omega)), addBits, hb, hb₁, hb₂]
  congr 2
  omega

theorem step_form4 {v : Nat} (hlo : 0xffff < v) (hhi : v < 0x110000) (rest : List UInt8) :
    step (v / 262144 % 8 + 0xf0).toUInt8 ((v / 4096 % 64 + 0x80).toUInt8 ::
        (v / 64 % 64 + 0x80).toUInt8 :: (v % 64 + 0x80).toUInt8 :: rest) =
      .char (Char.ofNat v) 3 := by
  have hb := toNat_toUInt8 (n := v / 262144 % 8 + 0xf0) (by omega)
  have hb₁ := toNat_toUInt8 (n := v / 4096 % 64 + 0x80) (by omega)
  have hb₂ := toNat_toUInt8 (n := v / 64 % 64 + 0x80) (by omega)
  have hb₃ := toNat_toUInt8 (n := v % 64 + 0x80) (by omega)
  have h₂ : isContinuation (v / 64 % 64 + 0x80).toUInt8 := isContinuation_iff.mpr (by omega)
  have h₃ : isContinuation (v % 64 + 0x80).toUInt8 := isContinuation_iff.mpr (by omega)
  rw [step_eq_step4 _ (by omega) (by omega), step4, if_pos (isSecond_iff.mpr (by omega))]
  simp only [h₂, h₃, if_true, addBits, hb, hb₁, hb₂, hb₃]
  congr 2
  omega

/-- Where the form of a character stands, the character is read. -/
theorem step_encodeChar (c : Char) : ∃ b tail, String.utf8EncodeChar c = b :: tail ∧
    ∀ rest, step b (tail ++ rest) = .char c tail.length := by
  have hv : c.toNat.isValidChar := c.valid
  have hform := encodeChar_ofNat hv
  rw [Char.ofNat_toNat] at hform
  generalize hn : c.toNat = v at hv hform
  obtain rfl : Char.ofNat v = c := by rw [← hn, Char.ofNat_toNat]
  split at hform
  · rename_i h₁
    have hb := toNat_toUInt8 (n := v) (by omega)
    refine ⟨_, _, hform, fun rest => ?_⟩
    rw [step_of_lt _ (by omega), hb]
    rfl
  split at hform
  · exact ⟨_, _, hform, step_form2 (by omega) (by omega)⟩
  split at hform
  · exact ⟨_, _, hform, step_form3 hv (by omega) (by omega)⟩
  · exact ⟨_, _, hform, step_form4 (by omega) (hv.elim (fun h => by omega) fun h => h.2)⟩

/-! ## More bytes -/

theorem step2_append {b : UInt8} {rest : List UInt8} (later : List UInt8)
    (h : ∀ reason, step2 b rest ≠ .incomplete reason) : step2 b (rest ++ later) = step2 b rest := by
  match rest with
  | [] => exact absurd rfl (h _)
  | b₁ :: rest => rfl

theorem step3_append {b : UInt8} {rest : List UInt8} (later : List UInt8)
    (h : ∀ reason, step3 b rest ≠ .incomplete reason) : step3 b (rest ++ later) = step3 b rest := by
  match rest with
  | [] => exact absurd rfl (h _)
  | [b₁] =>
    by_cases h₁ : isSecond b b₁
    · exact absurd (by simp [step3, h₁]) (h .unexpectedEnd)
    · simp [step3, h₁]
  | b₁ :: b₂ :: rest => rfl

theorem step4_append {b : UInt8} {rest : List UInt8} (later : List UInt8)
    (h : ∀ reason, step4 b rest ≠ .incomplete reason) : step4 b (rest ++ later) = step4 b rest := by
  match rest with
  | [] => exact absurd rfl (h _)
  | [b₁] =>
    by_cases h₁ : isSecond b b₁
    · exact absurd (by simp [step4, h₁]) (h .unexpectedEnd)
    · simp [step4, h₁]
  | [b₁, b₂] =>
    by_cases h₁ : isSecond b b₁
    · by_cases h₂ : isContinuation b₂
      · exact absurd (by simp [step4, h₁, h₂]) (h .unexpectedEnd)
      · simp [step4, h₁, h₂]
    · simp [step4, h₁]
  | b₁ :: b₂ :: b₃ :: rest => rfl

/-- More bytes change the verdict only where the bytes end within a character. -/
theorem step_append {b : UInt8} {rest : List UInt8} (later : List UInt8)
    (h : ∀ reason, step b rest ≠ .incomplete reason) : step b (rest ++ later) = step b rest := by
  simp only [step] at h ⊢
  split_ifs at h ⊢
  · rfl
  · rfl
  · exact step2_append later h
  · exact step3_append later h
  · exact step4_append later h
  · rfl

/-! ## Texts -/

theorem encode_append (cs cs' : List Char) : encode (cs ++ cs') = encode cs ++ encode cs' :=
  List.flatMap_append

theorem encode_intercalate (separator : List Char) (pieces : List (List Char)) :
    encode (separator.intercalate pieces) =
      (encode separator).intercalate (pieces.map encode) := by
  induction pieces with
  | nil => rfl
  | cons piece pieces ih =>
    cases pieces with
    | nil => simp
    | cons piece' pieces =>
      simp only [List.intercalate_cons_cons, List.map_cons, encode_append] at ih ⊢
      rw [ih]

/-- A byte of ASCII stands for the character of its number, and for no other one. -/
theorem ofNat_mem_of_mem_encode {cs : List Char} {b : UInt8} (h : b ∈ encode cs)
    (hb : b.toNat < 0x80) : Char.ofNat b.toNat ∈ cs := by
  obtain ⟨c, hc, hmem⟩ := List.mem_flatMap.mp h
  have hform := encodeChar_ofNat (v := c.toNat) c.valid
  have hne : ∀ n : Nat, n < 0x100 → 0x80 ≤ n → b ≠ n.toUInt8 := by
    rintro n hn hlo rfl
    rw [toNat_toUInt8 hn] at hb
    omega
  rw [Char.ofNat_toNat] at hform
  rw [hform] at hmem
  split_ifs at hmem
  all_goals simp only [List.mem_cons, List.not_mem_nil, or_false] at hmem
  · obtain rfl := hmem
    rwa [toNat_toUInt8 (by omega), Char.ofNat_toNat]
  · obtain h | h := hmem
    all_goals exact absurd h (hne _ (by omega) (by omega))
  · obtain h | h | h := hmem
    all_goals exact absurd h (hne _ (by omega) (by omega))
  · obtain h | h | h | h := hmem
    all_goals exact absurd h (hne _ (by omega) (by omega))

/-- A text that is encoded begins with its first character. -/
theorem exists_encode_cons (c : Char) (cs : List Char) :
    ∃ b tail, encode (c :: cs) = b :: (tail ++ encode cs) ∧
      ∀ rest, step b (tail ++ rest) = .char c tail.length := by
  obtain ⟨b, tail, hform, hstep⟩ := step_encodeChar c
  refine ⟨b, tail, ?_, hstep⟩
  rw [encode, List.flatMap_cons, hform]
  rfl

/-- Only the mark is written as the mark. -/
theorem head?_eq_of_mark_isPrefix {cs : List Char} (h : mark <+: encode cs) :
    cs.head? = some '\ufeff' := by
  obtain ⟨rest, hrest⟩ := h
  cases cs with
  | nil => cases hrest
  | cons c cs =>
    obtain ⟨b, tail, hbytes, hstep⟩ := exists_encode_cons c cs
    rw [hbytes] at hrest
    obtain ⟨rfl, htail⟩ := List.cons.inj hrest
    have hmark : step 0xef ([0xbb, 0xbf] ++ rest) = .char '\ufeff' 2 := rfl
    have hc := hstep (encode cs)
    rw [← htail] at hc
    exact congrArg some (CodecStep.char.inj (hc.symm.trans hmark)).1

end Utf8

namespace Codec

theorem inverts_utf8 : utf8.Inverts fun c => some (String.utf8EncodeChar c) where
  read h := by
    cases h
    exact Utf8.step_encodeChar _
  written h := by
    obtain ⟨hle, hform⟩ := Utf8.encodeChar_of_step h
    exact ⟨hle, congrArg some hform⟩

theorem isSteady_utf8 : utf8.IsSteady := inverts_utf8.isSteady Utf8.step_append

theorem reads_utf8_iff {bytes : List UInt8} {cs : List Char} :
    utf8.Reads bytes cs [] ↔ bytes = Utf8.encode cs := by
  rw [inverts_utf8.reads_iff, writeAll_some, Option.some.injEq, eq_comm]
  rfl

theorem decode_encode (cs : List Char) : utf8.decode true 0 (Utf8.encode cs) = .ok (cs, []) :=
  decode_final_eq_ok_iff.mpr ⟨rfl, reads_utf8_iff.mpr rfl⟩

theorem decodeEachFrom_encode (before : List (Option Char)) (cs : List Char) :
    utf8.decodeEachFrom before (Utf8.encode cs) = before.reverse ++ cs.map some := by
  induction cs generalizing before with
  | nil =>
    rw [Utf8.encode, List.flatMap_nil, decodeEachFrom]
    simp
  | cons c cs ih =>
    obtain ⟨b, tail, hbytes, hstep⟩ := Utf8.exists_encode_cons c cs
    have hread : utf8.step b (tail ++ Utf8.encode cs) = .char c tail.length := hstep _
    rw [hbytes, decodeEachFrom]
    simp only [hread, List.drop_left, ih]
    simp

theorem decodeEach_encode (cs : List Char) :
    utf8.decodeEach (Utf8.encode cs) = cs.map some := by
  rw [decodeEach, decodeEachFrom_encode]
  rfl

end Codec

end Text

end Vicinity
