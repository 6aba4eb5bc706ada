import Mathlib.Algebra.Group.Nat.Defs
import Vicinity.Proofs.Bytes
import Vicinity.Proofs.Deflate.Steady

/-!
# The format of compressed data

Compressed data as a format, without a reader : which bits a block may be made of, and the bytes
that it adds to those before it. The fixed codes are given by the numbers of their symbols, the
lengths and distances by formulas, and a copy by what holds of every byte in it, so that nothing
here follows the steps of inflating. Blocks that give codes of their own are left out.

The position of a block, the number of bits before its body, is a part of the format : stored
bytes begin with a whole byte.
-/

namespace Vicinity

namespace Deflate

open BitReader

/-! ## Numbers -/

/-- The lowest `n` bits of a number, the least significant first. -/
def numberBits (n value : Nat) : List Bool := (List.range n).map value.testBit

/-- The bits of a symbol in the fixed code for literals and lengths. -/
def fixedPath (symbol : Nat) : List Bool :=
  if symbol < 144 then pathOf 8 (0x30 + symbol)
  else if symbol < 256 then pathOf 9 (0x190 + (symbol - 144))
  else if symbol < 280 then pathOf 7 (symbol - 256)
  else pathOf 8 (0xc0 + (symbol - 280))

/-- The number of bits that are added to a length, for the symbols from 257 on. -/
def lengthExtra (i : Nat) : Nat := if i < 8 ∨ i = 28 then 0 else (i - 4) / 4

/-- The least length, for the symbols from 257 on. -/
def lengthBase (i : Nat) : Nat :=
  if i < 8 then 3 + i else if i = 28 then 258 else 3 + (4 + i % 4) * 2 ^ lengthExtra i

/-- The number of bits that are added to a distance. -/
def distanceExtra (i : Nat) : Nat := if i < 2 then 0 else (i - 2) / 2

/-- The least distance. -/
def distanceBase (i : Nat) : Nat := if i < 2 then 1 + i else 1 + (2 + i % 2) * 2 ^ distanceExtra i

/-! ## Copies -/

/-- A length and a distance, each by its symbol and the number that is added. -/
structure Match where
  lengthSymbol : Fin 29
  lengthMore : Nat
  distanceSymbol : Fin 30
  distanceMore : Nat
  lengthMore_lt : lengthMore < 2 ^ lengthExtra lengthSymbol
  distanceMore_lt : distanceMore < 2 ^ distanceExtra distanceSymbol

namespace Match

def length (m : Match) : Nat := lengthBase m.lengthSymbol + m.lengthMore

def distance (m : Match) : Nat := distanceBase m.distanceSymbol + m.distanceMore

/-- The bits of a match in the fixed codes. -/
def bits (m : Match) : List Bool :=
  fixedPath (257 + m.lengthSymbol) ++ numberBits (lengthExtra m.lengthSymbol) m.lengthMore ++
    pathOf 5 m.distanceSymbol ++ numberBits (distanceExtra m.distanceSymbol) m.distanceMore

end Match

/-- `copied` is a copy, put behind the bytes `out`, from `distance` bytes back on; it may go on
into itself. -/
structure IsCopy (distance : Nat) (out copied : List UInt8) : Prop where
  distance_le : distance ≤ out.length
  getElem?_eq : ∀ i < copied.length, copied[i]? = (out ++ copied)[out.length + i - distance]?

/-! ## Blocks -/

/-- The bits of tokens in the fixed codes up to the end of their block, behind the bytes `out`,
and these bytes with those of the tokens. -/
inductive FixedTokens : List UInt8 → List Bool → List UInt8 → Prop
  | endOfBlock (out : List UInt8) : FixedTokens out (fixedPath 256) out
  | literal {out out' : List UInt8} {bits : List Bool} (b : UInt8) :
      FixedTokens (out ++ [b]) bits out' → FixedTokens out (fixedPath b.toNat ++ bits) out'
  | copy {out out' copied : List UInt8} {bits : List Bool} (m : Match) :
      copied.length = m.length → IsCopy m.distance out copied →
        FixedTokens (out ++ copied) bits out' → FixedTokens out (m.bits ++ bits) out'

/-- The body of a block of a kind at a position. Stored bytes are put behind their number and its
complement, from the next whole byte on. -/
inductive Body (position : Nat) (out : List UInt8) : (kind : Nat) → List Bool → List UInt8 → Prop
  | stored (padding : List Bool) (bytes : List UInt8) :
      (position + padding.length) % 8 = 0 → padding.length < 8 → bytes.length < 0x10000 →
        Body position out 0
          (padding ++ numberBits 16 bytes.length ++ numberBits 16 (0xffff - bytes.length) ++
            bitsOfBytes bytes)
          (out ++ bytes)
  | fixed {bits : List Bool} {out' : List UInt8} :
      FixedTokens out bits out' → Body position out 1 bits out'

/-- Blocks from a position on, up to the one that is marked as the last. -/
inductive Blocks : Nat → List UInt8 → List Bool → List UInt8 → Prop
  | last {position kind : Nat} {out out' : List UInt8} {bits : List Bool} :
      Body (position + 3) out kind bits out' →
        Blocks position out (true :: numberBits 2 kind ++ bits) out'
  | more {position kind : Nat} {out mid out' : List UInt8} {bits bits' : List Bool} :
      Body (position + 3) out kind bits mid →
        Blocks (position + 3 + bits.length) mid bits' out' →
          Blocks position out (false :: numberBits 2 kind ++ bits ++ bits') out'

/-- The bytes are compressed data for a content : blocks, and what fills up the last byte. -/
def IsData (content bytes : List UInt8) : Prop :=
  ∃ bits padding, Blocks 0 [] bits content ∧ padding.length < 8 ∧
    bitsOfBytes bytes = bits ++ padding

/-! ## Reading bits -/

namespace BitReader

theorem bits_append_of_length : ∀ {n : Nat} {bs : List Bool}, bs.length = n → ∀ rest,
    BitReader.bits n (bs ++ rest) = .ok (bs, rest)
  | 0, [], _, rest => rfl
  | n + 1, b :: bs, h, rest => by
    have ih := bits_append_of_length (Nat.succ.inj h) rest
    simp only [List.cons_append, BitReader.bits, ih]

theorem number_append_of_length {n : Nat} {bs : List Bool} (h : bs.length = n) (rest : List Bool) :
    number n (bs ++ rest) = .ok (ofBits bs, rest) := by
  simp only [number, Functor.map, StateT.map, bits_append_of_length h rest, Bind.bind, Except.bind]
  rfl

end BitReader

theorem length_numberBits (n value : Nat) : (numberBits n value).length = n := by
  rw [numberBits, List.length_map, List.length_range]

theorem ofBits_append (bits bits' : List Bool) :
    ofBits (bits ++ bits') = ofBits bits + 2 ^ bits.length * ofBits bits' := by
  induction bits with
  | nil => simp [ofBits]
  | cons b bits ih =>
    rw [List.cons_append, ofBits, ofBits, ih, List.length_cons, Nat.pow_succ, Nat.mul_add,
      ← Nat.add_assoc, Nat.mul_comm (2 ^ bits.length) 2, Nat.mul_assoc]

theorem ofBits_numberBits {n value : Nat} (h : value < 2 ^ n) :
    ofBits (numberBits n value) = value := by
  induction n generalizing value with
  | zero =>
    have : value = 0 := by simpa using h
    rw [this]
    rfl
  | succ n ih =>
    have hcons : numberBits (n + 1) value = value.testBit 0 :: numberBits n (value / 2) := by
      simp only [numberBits, List.range_succ_eq_map, List.map_cons, List.map_map]
      congr 1
      exact List.map_congr_left fun i _ => Nat.testBit_succ value i
    rw [hcons, ofBits, ih (by rw [Nat.pow_succ] at h; omega), Nat.toNat_testBit]
    omega

theorem number_numberBits {n value : Nat} (h : value < 2 ^ n) (rest : List Bool) :
    BitReader.number n (numberBits n value ++ rest) = .ok (value, rest) := by
  rw [BitReader.number_append_of_length (length_numberBits n value), ofBits_numberBits h]

/-! ## Reading symbols -/

/-- The symbol that all of the bits lead to. -/
def CodeTree.leadsTo : CodeTree → List Bool → Option Nat
  | .symbol s, [] => some s
  | .fork zero _, false :: path => zero.leadsTo path
  | .fork _ one, true :: path => one.leadsTo path
  | _, _ => Option.none

/-- The symbol that all of the bits lead to. -/
def Code.leadsTo (code : Code) : List Bool → Option Nat :=
  (CodeTree.fork code.zero code.one).leadsTo

theorem CodeTree.read_of_leadsTo {f : Fault} {s : Nat} {rest : List Bool} :
    ∀ {t : CodeTree} {path : List Bool}, t.leadsTo path = some s →
      t.read f (path ++ rest) = .ok (s, rest)
  | .none, path, h => by cases path <;> cases h
  | .symbol s', [], h => by
    cases h
    rfl
  | .symbol s', false :: path, h => by cases h
  | .symbol s', true :: path, h => by cases h
  | .fork zero one, [], h => by cases h
  | .fork zero one, false :: path, h => read_of_leadsTo (t := zero) h
  | .fork zero one, true :: path, h => read_of_leadsTo (t := one) h

theorem Code.read_of_leadsTo {f : Fault} {code : Code} {path : List Bool} {s : Nat}
    (h : code.leadsTo path = some s) (rest : List Bool) :
    code.read f (path ++ rest) = .ok (s, rest) := by
  rw [read_eq_fork]
  exact CodeTree.read_of_leadsTo h

/-- The fixed code has the symbols where the format says. -/
theorem leadsTo_fixedPath : ∀ s : Fin 288, fixedLiterals.leadsTo (fixedPath s) = some s.val := by
  decide +kernel

theorem leadsTo_pathOf : ∀ s : Fin 32, fixedDistances.leadsTo (pathOf 5 s) = some s.val := by
  decide +kernel

theorem lengthTable_getElem? : ∀ i : Fin 29,
    lengthTable[i.val]? = some (lengthBase i, lengthExtra i) := by
  decide

theorem distanceTable_getElem? : ∀ i : Fin 30,
    distanceTable[i.val]? = some (distanceBase i, distanceExtra i) := by
  decide

theorem distanceBase_pos : ∀ i : Fin 30, 0 < distanceBase i := by
  decide

/-! ## Reading tokens -/

theorem readEntry_append {table : List (Nat × Nat)} {f : Fault} {symbol base extra more : Nat}
    (h : table[symbol]? = some (base, extra)) (hmore : more < 2 ^ extra) (rest : List Bool) :
    readEntry table f symbol (numberBits extra more ++ rest) = .ok (base + more, rest) := by
  simp only [readEntry, h, Functor.map, StateT.map, number_numberBits hmore, Bind.bind, Except.bind]
  rfl

theorem readToken_literal (b : UInt8) (rest : List Bool) :
    readToken fixedLiterals fixedDistances (fixedPath b.toNat ++ rest) =
      .ok (.literal b, rest) := by
  have hb := b.toNat_lt
  have hread := Code.read_of_leadsTo (f := .literalCode)
    (leadsTo_fixedPath ⟨b.toNat, by omega⟩) rest
  rw [readToken, bind_eq_of_ok hread, readTokenAfter, if_pos hb, toUInt8_toNat]
  rfl

theorem readToken_endOfBlock (rest : List Bool) :
    readToken fixedLiterals fixedDistances (fixedPath 256 ++ rest) = .ok (.endOfBlock, rest) := by
  have hread := Code.read_of_leadsTo (f := .literalCode) (leadsTo_fixedPath ⟨256, by decide⟩) rest
  rw [readToken, bind_eq_of_ok hread]
  rfl

theorem readToken_match (m : Match) (rest : List Bool) :
    readToken fixedLiterals fixedDistances (m.bits ++ rest) =
      .ok (.copy m.distance m.length, rest) := by
  have hl := m.lengthSymbol.isLt
  have hd := m.distanceSymbol.isLt
  have hread : ∀ rest, fixedLiterals.read .literalCode
      (fixedPath (257 + m.lengthSymbol) ++ rest) = .ok (257 + m.lengthSymbol.val, rest) :=
    fun rest => Code.read_of_leadsTo (leadsTo_fixedPath ⟨_, by omega⟩) rest
  have hread' : ∀ rest, fixedDistances.read .distanceCode
      (pathOf 5 m.distanceSymbol ++ rest) = .ok (m.distanceSymbol.val, rest) :=
    fun rest => Code.read_of_leadsTo (leadsTo_pathOf ⟨m.distanceSymbol.val, by omega⟩) rest
  have hlength := fun rest => readEntry_append (f := .literalCode)
    (lengthTable_getElem? m.lengthSymbol) m.lengthMore_lt rest
  have hdistance := fun rest => readEntry_append (f := .distanceCode)
    (distanceTable_getElem? m.distanceSymbol) m.distanceMore_lt rest
  simp only [Match.bits, List.append_assoc]
  rw [readToken, bind_eq_of_ok (hread _), readTokenAfter, if_neg (by omega), if_neg (by omega),
    Nat.add_sub_cancel_left, bind_eq_of_ok (hlength _), bind_eq_of_ok (hread' _),
    bind_eq_of_ok (hdistance _)]
  rfl

/-! ## Reading blocks -/

/-- Copying byte by byte makes the copy. -/
theorem copyBack_of_isCopy {distance : Nat} (hpos : 0 < distance) :
    ∀ {copied out : List UInt8}, IsCopy distance out copied →
      copyBack out.toArray distance copied.length = (out ++ copied).toArray
  | [], out, _ => by
    rw [List.append_nil]
    rfl
  | c :: copied, out, h => by
    have hle := h.distance_le
    have hfirst : out[out.length - distance]? = some c := by
      have := h.getElem?_eq 0 (by simp)
      rw [Nat.add_zero, List.getElem?_append_left (by omega)] at this
      exact this.symm
    have hrest : IsCopy distance (out ++ [c]) copied := by
      refine ⟨by rw [List.length_append]; omega, fun i hi => ?_⟩
      have := h.getElem?_eq (i + 1) (by simpa using hi)
      rw [List.getElem?_cons_succ] at this
      rw [this, List.append_assoc, List.singleton_append, List.length_append, List.length_singleton]
      congr 1
      omega
    rw [List.length_cons, copyBack, List.size_toArray, List.getElem?_toArray, hfirst,
      Option.getD_some, List.push_toArray, copyBack_of_isCopy hpos hrest, List.append_assoc,
      List.singleton_append]

theorem Match.distance_pos (m : Match) : 0 < m.distance :=
  Nat.lt_of_lt_of_le (distanceBase_pos m.distanceSymbol) (Nat.le_add_right _ _)

theorem inflateTokens_of_fixedTokens {out out' : List UInt8} {bits : List Bool}
    (h : FixedTokens out bits out') (rest : List Bool) :
    inflateTokens fixedLiterals fixedDistances out.toArray (bits ++ rest) =
      (out'.toArray, .ok rest) := by
  induction h with
  | endOfBlock out => exact inflateTokens_of_endOfBlock (readToken_endOfBlock rest)
  | literal b _ ih =>
    rw [List.append_assoc, inflateTokens_of_literal (readToken_literal b _), List.push_toArray, ih]
  | copy m hlen hcopy _ ih =>
    have hle : ¬ _ < m.distance := Nat.not_lt.mpr hcopy.distance_le
    rw [List.append_assoc, inflateTokens_of_copy (readToken_match m _), List.size_toArray,
      if_neg hle, ← hlen, copyBack_of_isCopy m.distance_pos hcopy, ih]

theorem inflateStored_append (bytes : List UInt8) : ∀ (out : List UInt8) (rest : List Bool),
    inflateStored out.toArray (bitsOfBytes bytes ++ rest) bytes.length =
      ((out ++ bytes).toArray, .ok rest) := by
  induction bytes with
  | nil =>
    intro out rest
    rw [List.append_nil]
    rfl
  | cons b bytes ih =>
    intro out rest
    have hb : BitReader.number 8 (bitsOfByte b ++ (bitsOfBytes bytes ++ rest)) = .ok (b.toNat, _) :=
      number_numberBits b.toNat_lt _
    rw [bitsOfBytes, List.flatMap_cons, List.append_assoc, ← bitsOfBytes, List.length_cons,
      inflateStored, hb]
    dsimp only
    rw [toUInt8_toNat, List.push_toArray, ih, List.append_assoc, List.singleton_append]

theorem readStoredLength_append {padding rest : List Bool} {length : Nat}
    (hpadding : padding.length < 8) (hlength : length < 0x10000) (hrest : rest.length % 8 = 0) :
    readStoredLength
        (padding ++ (numberBits 16 length ++ (numberBits 16 (0xffff - length) ++ rest))) =
      .ok (length, rest) := by
  have halign : BitReader.align
        (padding ++ (numberBits 16 length ++ (numberBits 16 (0xffff - length) ++ rest))) =
      .ok ((), numberBits 16 length ++ (numberBits 16 (0xffff - length) ++ rest)) := by
    have hmod : (padding.length + (16 + (16 + rest.length))) % 8 = padding.length := by omega
    simp only [BitReader.align, List.length_append, length_numberBits, hmod, List.drop_left]
  have hboth : BitReader.number 32
        (numberBits 16 length ++ (numberBits 16 (0xffff - length) ++ rest)) =
      .ok (length + 2 ^ 16 * (0xffff - length), rest) := by
    rw [← List.append_assoc, number_append_of_length (by simp [length_numberBits]), ofBits_append,
      ofBits_numberBits (by omega), ofBits_numberBits (by omega), length_numberBits]
  rw [readStoredLength, bind_eq_of_ok halign, bind_eq_of_ok hboth]
  have hlow : (length + 2 ^ 16 * (0xffff - length)) % 0x10000 = length := by omega
  have hhigh : (length + 2 ^ 16 * (0xffff - length)) / 0x10000 = 0xffff - length := by omega
  rw [hlow, hhigh, if_pos (by omega)]
  rfl

/-- The body of a block is inflated as the format says, if all bits are those of whole bytes. -/
theorem inflateBlock_of_body {position kind : Nat} {out out' : List UInt8} {bits rest : List Bool}
    (h : Body position out kind bits out')
    (hwhole : (position + bits.length + rest.length) % 8 = 0) :
    inflateBlock kind out.toArray (bits ++ rest) = (out'.toArray, .ok rest) := by
  cases h with
  | stored padding bytes hposition hpadding hlength =>
    have hrest : (bitsOfBytes bytes ++ rest).length % 8 = 0 := by
      simp only [List.length_append, length_numberBits, length_bitsOfBytes] at hwhole ⊢
      omega
    simp only [inflateBlock, List.append_assoc,
      readStoredLength_append hpadding hlength hrest, inflateStored_append]
  | fixed htokens => exact inflateTokens_of_fixedTokens htokens rest

theorem Body.kind_le {position kind : Nat} {out out' : List UInt8} {bits : List Bool}
    (h : Body position out kind bits out') : kind ≤ 1 := by
  cases h with
  | stored => exact Nat.zero_le _
  | fixed => exact Nat.le_refl _

/-- The head of a block tells whether it is the last, and its kind. -/
theorem number_head (final : Bool) {kind : Nat} (h : kind ≤ 1) (rest : List Bool) :
    BitReader.number 3 (final :: numberBits 2 kind ++ rest) =
      .ok (final.toNat + 2 * kind, rest) := by
  rw [number_append_of_length (by simp [length_numberBits]), ofBits, ofBits_numberBits (by omega)]

/-- One block is inflated, and the next ones unless it is the last. -/
theorem inflateBlocks_of_body {position kind : Nat} {out mid : List UInt8} {bits rest : List Bool}
    (final : Bool) (h : Body position out kind bits mid)
    (hwhole : (position + bits.length + rest.length) % 8 = 0) (todo : Nat) :
    inflateBlocks (todo + 1) out.toArray (final :: numberBits 2 kind ++ (bits ++ rest)) =
      if final then (mid.toArray, .ok rest) else inflateBlocks todo mid.toArray rest := by
  have hkind : (final.toNat + 2 * kind) / 2 = kind := by
    have := final.toNat_le
    omega
  have hfinal : (final.toNat + 2 * kind) % 2 = final.toNat := by
    have := final.toNat_le
    omega
  rw [inflateBlocks, number_head final h.kind_le]
  simp only [hkind, hfinal, inflateBlock_of_body h hwhole, Bool.toNat_eq_one]

theorem inflateBlocks_of_blocks {position : Nat} {out out' : List UInt8} {bits rest : List Bool}
    (h : Blocks position out bits out') (hwhole : (position + bits.length + rest.length) % 8 = 0)
    {todo : Nat} (htodo : bits.length < todo) :
    inflateBlocks todo out.toArray (bits ++ rest) = (out'.toArray, .ok rest) := by
  induction h generalizing todo with
  | last hbody =>
    obtain ⟨todo, rfl⟩ : ∃ n, todo = n + 1 := Nat.exists_eq_succ_of_ne_zero (by omega)
    simp only [List.length_append, List.length_cons, length_numberBits] at hwhole
    rw [List.append_assoc, inflateBlocks_of_body true hbody (by omega), if_pos rfl]
  | more hbody _ ih =>
    obtain ⟨todo, rfl⟩ : ∃ n, todo = n + 1 := Nat.exists_eq_succ_of_ne_zero (by omega)
    simp only [List.length_append, List.length_cons, length_numberBits] at hwhole htodo
    rw [List.append_assoc, List.append_assoc,
      inflateBlocks_of_body false hbody (by rw [List.length_append]; omega),
      if_neg Bool.false_ne_true]
    exact ih (by omega) (by omega)

/-- Compressed data is inflated to its content, and what follows it is left. -/
theorem inflate_of_isData {content bytes : List UInt8} (h : IsData content bytes)
    (rest : List UInt8) : inflate (bytes ++ rest) = ⟨content, .ok rest⟩ := by
  obtain ⟨bits, padding, hblocks, hpadding, hbits⟩ := h
  have hlen := congrArg List.length hbits
  have hrest := length_bitsOfBytes rest
  rw [length_bitsOfBytes, List.length_append] at hlen
  have hall : bitsOfBytes (bytes ++ rest) = bits ++ (padding ++ bitsOfBytes rest) := by
    rw [bitsOfBytes_append, hbits, List.append_assoc]
  have hrun : inflateBlocks ((bitsOfBytes (bytes ++ rest)).length + 1) #[]
      (bitsOfBytes (bytes ++ rest)) = (content.toArray, .ok (padding ++ bitsOfBytes rest)) := by
    rw [hall]
    refine inflateBlocks_of_blocks hblocks ?_ ?_
    · rw [List.length_append]
      omega
    · rw [List.length_append]
      omega
  have hdrop : (bytes ++ rest).length - (padding ++ bitsOfBytes rest).length / 8 =
      bytes.length := by
    rw [List.length_append, List.length_append]
    omega
  simp only [inflate, hrun, hdrop, List.drop_left]

end Deflate

end Vicinity
