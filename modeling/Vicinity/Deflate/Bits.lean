/-!
# Bit streams

Compressed data is a sequence of bits, those of a byte from the least significant on. A
`BitReader` takes bits off the front. It can halt for two reasons that must not be mixed up :
the bits have run out, so that more of them might have helped (`Halt.starved`), or they are not
compressed data, whatever follows (`Halt.corrupt`).

`BitReader.Shrinks` says that a reader never leaves more bits than it found; the loops over
blocks and tokens end because of it.
-/

namespace Vicinity

namespace Deflate

/-- What can be wrong with compressed data. -/
inductive Fault where
  | blockType
  | storedLength
  | tooManySymbols
  | codeLengthsSet
  | lengthRepeat
  | missingEndOfBlock
  | literalSet
  | distanceSet
  | literalCode
  | distanceCode
  | distanceTooFar
deriving DecidableEq

/-- The wording of a fault. -/
def Fault.message : Fault → String
  | blockType => "invalid block type"
  | storedLength => "invalid stored block lengths"
  | tooManySymbols => "too many length or distance symbols"
  | codeLengthsSet => "invalid code lengths set"
  | lengthRepeat => "invalid bit length repeat"
  | missingEndOfBlock => "invalid code -- missing end-of-block"
  | literalSet => "invalid literal/lengths set"
  | distanceSet => "invalid distances set"
  | literalCode => "invalid literal/length code"
  | distanceCode => "invalid distance code"
  | distanceTooFar => "invalid distance too far back"

/-- Why reading stops before its end. -/
inductive Halt where
  | starved
  | corrupt (f : Fault)
deriving DecidableEq

/-! ## Bits of bytes -/

/-- The bits of a byte, the least significant first. -/
def bitsOfByte (b : UInt8) : List Bool := (List.range 8).map b.toNat.testBit

/-- The bits of bytes. -/
def bitsOfBytes (bytes : List UInt8) : List Bool := bytes.flatMap bitsOfByte

/-- The number that bits write, the least significant first. -/
def ofBits : List Bool → Nat
  | [] => 0
  | b :: rest => b.toNat + 2 * ofBits rest

/-! ## Readers -/

/-- A reader takes bits off the front, or halts. -/
abbrev BitReader (α : Type) := StateT (List Bool) (Except Halt) α

namespace BitReader

/-- The next `n` bits. -/
def bits : Nat → BitReader (List Bool)
  | 0 => pure []
  | n + 1 => fun s =>
    match s with
    | [] => .error .starved
    | b :: s =>
      match bits n s with
      | .ok (bs, rest) => .ok (b :: bs, rest)
      | .error halt => .error halt

/-- The number that the next `n` bits write. -/
def number (n : Nat) : BitReader Nat := ofBits <$> bits n

/-- Halt for a fault. -/
def corrupt {α : Type} (f : Fault) : BitReader α := fun _ => .error (.corrupt f)

/-- Skip the bits that are left of the current byte. All bits together are those of whole
bytes, so their number tells how many these are. -/
def align : BitReader Unit := fun s => .ok ((), s.drop (s.length % 8))

/-! ## Progress -/

variable {α β : Type}

/-- A reader never leaves more bits than it found. -/
def Shrinks (r : BitReader α) : Prop :=
  ∀ ⦃s : List Bool⦄ ⦃a : α⦄ ⦃rest : List Bool⦄, r s = .ok (a, rest) → rest.length ≤ s.length

theorem Shrinks.pure (a : α) : Shrinks (Pure.pure a : BitReader α) := by
  intro s x rest h
  cases h
  exact Nat.le_refl _

theorem Shrinks.corrupt (f : Fault) : Shrinks (BitReader.corrupt f : BitReader α) := by
  intro s x rest h
  cases h

theorem Shrinks.bind {r : BitReader α} {k : α → BitReader β} (hr : Shrinks r)
    (hk : ∀ a, Shrinks (k a)) : Shrinks (r >>= k) := by
  intro s b rest h
  cases hs : r s with
  | error e =>
    simp only [Bind.bind, StateT.bind, hs, Except.bind] at h
    cases h
  | ok p =>
    obtain ⟨a, mid⟩ := p
    simp only [Bind.bind, StateT.bind, hs, Except.bind] at h
    exact Nat.le_trans (hk a h) (hr hs)

theorem length_of_bits : ∀ {n : Nat} {s bs rest : List Bool}, bits n s = .ok (bs, rest) →
    rest.length + n = s.length
  | 0, s, bs, rest, h => by
    cases h
    rfl
  | n + 1, [], bs, rest, h => by cases h
  | n + 1, b :: s, bs, rest, h => by
    simp only [bits] at h
    split at h
    · rename_i hs
      cases h
      have := length_of_bits hs
      rw [List.length_cons]
      omega
    · cases h

theorem Shrinks.bits (n : Nat) : Shrinks (BitReader.bits n) := by
  intro s bs rest h
  have := length_of_bits h
  omega

theorem Shrinks.number (n : Nat) : Shrinks (BitReader.number n) := by
  intro s v rest h
  cases hs : BitReader.bits n s with
  | error e =>
    simp only [BitReader.number, Functor.map, StateT.map, hs, Bind.bind, Except.bind] at h
    cases h
  | ok p =>
    simp only [BitReader.number, Functor.map, StateT.map, hs, Bind.bind, Except.bind] at h
    cases h
    exact Shrinks.bits n hs

theorem Shrinks.align : Shrinks BitReader.align := by
  intro s v rest h
  cases h
  simp

end BitReader

end Deflate

end Vicinity
