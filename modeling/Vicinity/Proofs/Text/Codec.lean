import Vicinity.Text.Codec

/-!
# What codecs read

`Codec.Reads` says, without positions and without an order of work, which characters a codec reads
off the front of some bytes and what it leaves. `Codec.decode_eq_ok_iff` and
`Codec.exists_invalid_of_decode` tie it to decoding.

A codec is steady if its verdict on a character does not change when more bytes follow
(`Codec.IsSteady`). What a steady codec reads off some bytes it also reads off longer ones
(`Codec.Reads.append`), and what is left can be read later (`Codec.reads_append_iff`).

A codec inverts a way of writing characters if it reads exactly what is written
(`Codec.Inverts`). It then reads whole texts exactly as they are written
(`Codec.Inverts.reads_iff`), which is the form in which the encodings are compared with the
standards that define them.
-/

namespace Vicinity

namespace Text

namespace Codec

variable {codec : Codec}

/-! ## Reading -/

/-- The codec reads the characters `cs` off the front of the bytes and leaves `left`. -/
inductive Reads (codec : Codec) : List UInt8 → List Char → List UInt8 → Prop
  | done (bytes : List UInt8) : Reads codec bytes [] bytes
  | char {b : UInt8} {rest left : List UInt8} {c : Char} {more : Nat} {cs : List Char} :
      codec.step b rest = .char c more → Reads codec (rest.drop more) cs left →
        Reads codec (b :: rest) (c :: cs) left

/-- Bytes at which reading may pause : there are none, or they end within a character and more
of them may come. -/
def Rests (codec : Codec) (final : Bool) (bytes : List UInt8) : Prop :=
  bytes = [] ∨ final = false ∧ ∃ b rest reason, bytes = b :: rest ∧
    codec.step b rest = .incomplete reason

theorem Reads.trans {bytes mid left : List UInt8} {cs cs' : List Char}
    (h : codec.Reads bytes cs mid) (h' : codec.Reads mid cs' left) :
    codec.Reads bytes (cs ++ cs') left := by
  induction h with
  | done bytes => exact h'
  | char hs _ ih => exact .char hs (ih h')

theorem Reads.length_le {bytes left : List UInt8} {cs : List Char}
    (h : codec.Reads bytes cs left) : left.length ≤ bytes.length := by
  induction h with
  | done bytes => exact Nat.le_refl _
  | char hs _ ih =>
    rw [List.length_drop] at ih
    rw [List.length_cons]
    omega

/-- A reading that goes on until it may pause goes on from where any other reading stopped. -/
theorem Reads.split {bytes left left' : List UInt8} {cs cs' : List Char}
    (h : codec.Reads bytes cs left) (h' : codec.Reads bytes cs' left')
    (hl : codec.Rests false left') : ∃ cs'', cs' = cs ++ cs'' ∧ codec.Reads left cs'' left' := by
  induction h generalizing cs' with
  | done bytes => exact ⟨cs', rfl, h'⟩
  | char hs _ ih =>
    cases h' with
    | done =>
      rcases hl with hl | ⟨-, b, rest, reason, hb, hi⟩
      · cases hl
      · cases hb
        rw [hs] at hi
        cases hi
    | char hs' hr' =>
      rw [hs] at hs'
      cases hs'
      obtain ⟨cs'', rfl, hl⟩ := ih hr'
      exact ⟨cs'', rfl, hl⟩

theorem reads_nil_iff {cs : List Char} {left : List UInt8} :
    codec.Reads [] cs left ↔ cs = [] ∧ left = [] := by
  constructor
  · intro h
    cases h
    exact ⟨rfl, rfl⟩
  · rintro ⟨rfl, rfl⟩
    exact .done []

/-- Where no character begins nothing is read. -/
theorem reads_cons_iff_of_ne_char {b : UInt8} {rest left : List UInt8} {cs : List Char}
    (h : ∀ c more, codec.step b rest ≠ .char c more) :
    codec.Reads (b :: rest) cs left ↔ cs = [] ∧ left = b :: rest := by
  constructor
  · intro hr
    cases hr with
    | done => exact ⟨rfl, rfl⟩
    | char hs _ => exact absurd hs (h _ _)
  · rintro ⟨rfl, rfl⟩
    exact .done _

theorem reads_cons_iff_of_char {b : UInt8} {rest left : List UInt8} {c : Char} {more : Nat}
    {cs : List Char} {final : Bool} (h : codec.step b rest = .char c more)
    (hl : codec.Rests final left) :
    codec.Reads (b :: rest) cs left ↔
      ∃ cs', cs = c :: cs' ∧ codec.Reads (rest.drop more) cs' left := by
  constructor
  · intro hr
    cases hr with
    | done =>
      rcases hl with hl | ⟨-, b', rest', reason, hb, hs⟩
      · cases hl
      · cases hb
        rw [h] at hs
        cases hs
    | char hs hr =>
      rw [h] at hs
      cases hs
      exact ⟨_, rfl, hr⟩
  · rintro ⟨cs', rfl, hr⟩
    exact .char h hr

/-! ## Decoding -/

/-- Decoding comes to its end where reading may pause. -/
theorem decodeFrom_eq_ok_iff {final : Bool} {position : Nat} {before cs : List Char}
    {bytes left : List UInt8} :
    codec.decodeFrom final position before bytes = .ok (cs, left) ↔
      codec.Rests final left ∧
        ∃ cs', cs = before.reverse ++ cs' ∧ codec.Reads bytes cs' left := by
  fun_induction decodeFrom codec final position before bytes generalizing cs left with
  | case1 position before =>
    simp only [Except.ok.injEq, Prod.mk.injEq, reads_nil_iff]
    constructor
    · rintro ⟨rfl, rfl⟩
      exact ⟨Or.inl rfl, [], by simp⟩
    · rintro ⟨-, cs', rfl, rfl, rfl⟩
      simp
  | case2 position before b rest c more hs ih =>
    rw [ih]
    refine and_congr_right fun hl => ?_
    simp only [reads_cons_iff_of_char hs hl]
    constructor
    · rintro ⟨cs', rfl, hr⟩
      exact ⟨c :: cs', by simp, cs', rfl, hr⟩
    · rintro ⟨-, rfl, cs', rfl, hr⟩
      exact ⟨cs', by simp, hr⟩
  | case3 position before b rest reason hs hf =>
    have hne : ∀ c more, codec.step b rest ≠ .char c more := by simp [hs]
    simp only [reads_cons_iff_of_ne_char hne]
    refine iff_of_false (by simp) ?_
    rintro ⟨hl | ⟨hf', -⟩, cs', -, -, hl'⟩
    · rw [hl] at hl'
      cases hl'
    · rw [hf] at hf'
      cases hf'
  | case4 position before b rest reason hs hf =>
    have hne : ∀ c more, codec.step b rest ≠ .char c more := by simp [hs]
    simp only [reads_cons_iff_of_ne_char hne, Except.ok.injEq, Prod.mk.injEq]
    constructor
    · rintro ⟨rfl, rfl⟩
      exact ⟨Or.inr ⟨by simpa using hf, b, rest, reason, rfl, hs⟩, [], by simp⟩
    · rintro ⟨-, cs', rfl, rfl, rfl⟩
      simp
  | case5 position before b rest more reason hs =>
    have hne : ∀ c more, codec.step b rest ≠ .char c more := by simp [hs]
    simp only [reads_cons_iff_of_ne_char hne]
    refine iff_of_false (by simp) ?_
    rintro ⟨hl | ⟨-, b', rest', reason', hb, hs'⟩, cs', -, -, hl'⟩
    · rw [hl] at hl'
      cases hl'
    · rw [hl'] at hb
      cases hb
      rw [hs] at hs'
      cases hs'

theorem decode_eq_ok_iff {final : Bool} {position : Nat} {cs : List Char}
    {bytes left : List UInt8} :
    codec.decode final position bytes = .ok (cs, left) ↔
      codec.Rests final left ∧ codec.Reads bytes cs left := by
  simp [decode, decodeFrom_eq_ok_iff]

/-- All bytes are decoded if and only if they are read to the last one. -/
theorem decode_final_eq_ok_iff {position : Nat} {cs : List Char} {bytes left : List UInt8} :
    codec.decode true position bytes = .ok (cs, left) ↔ left = [] ∧ codec.Reads bytes cs [] := by
  rw [decode_eq_ok_iff]
  constructor
  · rintro ⟨rfl | ⟨hf, -⟩, hr⟩
    · exact ⟨rfl, hr⟩
    · cases hf
  · rintro ⟨rfl, hr⟩
    exact ⟨Or.inl rfl, hr⟩

/-- Decoding that is not final fails only where no character begins. -/
theorem exists_invalid_of_decodeFrom {position : Nat} {before : List Char} {bytes : List UInt8}
    {e : DecodeError} (h : codec.decodeFrom false position before bytes = .error e) :
    ∃ cs b rest more reason, codec.Reads bytes cs (b :: rest) ∧
      codec.step b rest = .invalid more reason := by
  fun_induction decodeFrom codec false position before bytes with
  | case1 position before => cases h
  | case2 position before b rest c more hs ih =>
    obtain ⟨cs, b', rest', more', reason, hr, hi⟩ := ih h
    exact ⟨c :: cs, b', rest', more', reason, .char hs hr, hi⟩
  | case3 position before b rest reason hs hf => cases hf
  | case4 position before b rest reason hs hf => cases h
  | case5 position before b rest more reason hs => exact ⟨[], b, rest, more, reason, .done _, hs⟩

/-! ## Steady codecs -/

/-- The verdict on the character at the front does not change when more bytes follow. -/
structure IsSteady (codec : Codec) : Prop where
  length_le : ∀ {b rest c more}, codec.step b rest = .char c more → more ≤ rest.length
  char_append : ∀ {b rest c more}, codec.step b rest = .char c more →
    ∀ later, codec.step b (rest ++ later) = .char c more
  invalid_append : ∀ {b rest more reason}, codec.step b rest = .invalid more reason →
    ∀ later, codec.step b (rest ++ later) = .invalid more reason

theorem Reads.append (hc : codec.IsSteady) {bytes left : List UInt8} {cs : List Char}
    (h : codec.Reads bytes cs left) (later : List UInt8) :
    codec.Reads (bytes ++ later) cs (left ++ later) := by
  induction h with
  | done bytes => exact .done _
  | char hs _ ih =>
    rw [← List.drop_append_of_le_length (hc.length_le hs)] at ih
    exact .char (hc.char_append hs later) ih

/-- Reading in two pieces : the first is read as far as it goes, and what it leaves is read
with the second. -/
theorem reads_append_iff (hc : codec.IsSteady) {piece later : List UInt8} {cs : List Char}
    (position : Nat) :
    codec.Reads (piece ++ later) cs [] ↔
      ∃ cs₁ cs₂ left, codec.decode false position piece = .ok (cs₁, left) ∧
        codec.Reads (left ++ later) cs₂ [] ∧ cs = cs₁ ++ cs₂ := by
  constructor
  · intro h
    cases hd : codec.decode false position piece with
    | error e =>
      obtain ⟨cs₁, b, rest, more, reason, hr, hi⟩ := exists_invalid_of_decodeFrom hd
      have hne : ∀ c more, codec.step b (rest ++ later) ≠ .char c more := by
        simp [hc.invalid_append hi later]
      obtain ⟨cs₂, -, hl⟩ := (hr.append hc later).split h (.inl rfl)
      cases ((reads_cons_iff_of_ne_char hne).mp hl).2
    | ok p =>
      obtain ⟨cs₁, left⟩ := p
      obtain ⟨-, hr⟩ := decode_eq_ok_iff.mp hd
      obtain ⟨cs₂, rfl, hl⟩ := (hr.append hc later).split h (.inl rfl)
      exact ⟨cs₁, cs₂, left, rfl, hl, rfl⟩
  · rintro ⟨cs₁, cs₂, left, hd, hl, rfl⟩
    exact ((decode_eq_ok_iff.mp hd).2.append hc later).trans hl

/-! ## Written characters -/

/-- The bytes of a text whose characters are written one by one, if all of them can be. -/
def writeAll (write : Char → Option (List UInt8)) : List Char → Option (List UInt8)
  | [] => some []
  | c :: cs => (write c).bind fun bytes => (writeAll write cs).map (bytes ++ ·)

/-- If all characters can be written, so can all texts. -/
theorem writeAll_some (write : Char → List UInt8) (cs : List Char) :
    writeAll (fun c => some (write c)) cs = some (cs.flatMap write) := by
  induction cs with
  | nil => rfl
  | cons c cs ih =>
    rw [writeAll, ih]
    rfl

/-- The codec reads a character if and only if it stands there as it is written. -/
structure Inverts (codec : Codec) (write : Char → Option (List UInt8)) : Prop where
  read : ∀ {c bytes}, write c = some bytes →
    ∃ b tail, bytes = b :: tail ∧ ∀ rest, codec.step b (tail ++ rest) = .char c tail.length
  written : ∀ {b rest c more}, codec.step b rest = .char c more →
    more ≤ rest.length ∧ write c = some (b :: rest.take more)

/-- The codec reads a text to its end if and only if the bytes are the text as it is written. -/
theorem Inverts.reads_iff {write : Char → Option (List UInt8)} (hc : codec.Inverts write)
    {bytes : List UInt8} {cs : List Char} :
    codec.Reads bytes cs [] ↔ writeAll write cs = some bytes := by
  constructor
  · intro h
    generalize hl : ([] : List UInt8) = left at h
    induction h with
    | done bytes => rw [← hl, writeAll]
    | char hs _ ih =>
      obtain ⟨-, hw⟩ := hc.written hs
      rw [writeAll, hw, ih hl]
      simp
  · intro h
    induction cs generalizing bytes with
    | nil =>
      cases h
      exact .done []
    | cons c cs ih =>
      obtain ⟨first, hw, h⟩ := Option.bind_eq_some_iff.mp h
      obtain ⟨rest, hrest, rfl⟩ := Option.map_eq_some_iff.mp h
      obtain ⟨b, tail, rfl, hs⟩ := hc.read hw
      exact .char (hs rest) (by simpa using ih hrest)

/-- A codec that inverts a way of writing is steady if more bytes change its verdict only where
the bytes end within a character. -/
theorem Inverts.isSteady {write : Char → Option (List UInt8)} (hc : codec.Inverts write)
    (h : ∀ {b rest} (later : List UInt8), (∀ reason, codec.step b rest ≠ .incomplete reason) →
      codec.step b (rest ++ later) = codec.step b rest) : codec.IsSteady where
  length_le hs := (hc.written hs).1
  char_append hs later := by rw [h later (by simp [hs]), hs]
  invalid_append hs later := by rw [h later (by simp [hs]), hs]

end Codec

end Text

end Vicinity
