import Vicinity.Deflate.Code

/-!
# Inflating

Compressed data is a sequence of blocks : stored bytes, or tokens in a fixed code or in a code
that the block gives first. A token is a byte, a copy of bytes that came before, or the end of
the block. `Deflate.inflate` gives the bytes that were made before reading came to its end or
halted, so that what came before a fault is known, and how it ended.
-/

namespace Vicinity

namespace Deflate

/-! ## Tokens -/

/-- What a block is made of. -/
inductive Token where
  | literal (b : UInt8)
  /-- `length` bytes from `distance` bytes back on. -/
  | copy (distance length : Nat)
  | endOfBlock
deriving DecidableEq

/-- For each length symbol from 257 on, the least length and the number of bits added to it. -/
def lengthTable : List (Nat × Nat) :=
  [(3, 0), (4, 0), (5, 0), (6, 0), (7, 0), (8, 0), (9, 0), (10, 0), (11, 1), (13, 1), (15, 1),
    (17, 1), (19, 2), (23, 2), (27, 2), (31, 2), (35, 3), (43, 3), (51, 3), (59, 3), (67, 4),
    (83, 4), (99, 4), (115, 4), (131, 5), (163, 5), (195, 5), (227, 5), (258, 0)]

/-- For each distance symbol, the least distance and the number of bits added to it. -/
def distanceTable : List (Nat × Nat) :=
  [(1, 0), (2, 0), (3, 0), (4, 0), (5, 1), (7, 1), (9, 2), (13, 2), (17, 3), (25, 3), (33, 4),
    (49, 4), (65, 5), (97, 5), (129, 6), (193, 6), (257, 7), (385, 7), (513, 8), (769, 8),
    (1025, 9), (1537, 9), (2049, 10), (3073, 10), (4097, 11), (6145, 11), (8193, 12), (12289, 12),
    (16385, 13), (24577, 13)]

/-- The entry of a symbol with its added bits, or the fault if the symbol has none. -/
def readEntry (table : List (Nat × Nat)) (f : Fault) (symbol : Nat) : BitReader Nat :=
  match table[symbol]? with
  | none => .corrupt f
  | some (base, extra) => (base + ·) <$> BitReader.number extra

/-- What follows the symbol of a literal, a length or an end of block. -/
def readTokenAfter (distances : Code) (symbol : Nat) : BitReader Token :=
  if symbol < 256 then pure (.literal symbol.toUInt8)
  else if symbol = 256 then pure .endOfBlock
  else do
    let length ← readEntry lengthTable .literalCode (symbol - 257)
    let distance ← readEntry distanceTable .distanceCode (← distances.read .distanceCode)
    return .copy distance length

/-- The next token in two codes. -/
def readToken (literals distances : Code) : BitReader Token :=
  literals.read .literalCode >>= readTokenAfter distances

theorem shrinks_readEntry (table : List (Nat × Nat)) (f : Fault) (symbol : Nat) :
    (readEntry table f symbol).Shrinks := by
  unfold readEntry
  split
  · exact BitReader.Shrinks.corrupt f
  · rw [map_eq_pure_bind]
    exact (BitReader.Shrinks.number _).bind fun _ => BitReader.Shrinks.pure _

theorem shrinks_readTokenAfter (distances : Code) (symbol : Nat) :
    (readTokenAfter distances symbol).Shrinks := by
  unfold readTokenAfter
  split
  · exact BitReader.Shrinks.pure _
  split
  · exact BitReader.Shrinks.pure _
  exact (shrinks_readEntry _ _ _).bind fun _ => (distances.shrinks_read _).bind fun _ =>
    (shrinks_readEntry _ _ _).bind fun _ => BitReader.Shrinks.pure _

/-- A token takes at least one bit. -/
theorem length_lt_of_readToken {literals distances : Code} {bits rest : List Bool} {t : Token}
    (h : readToken literals distances bits = .ok (t, rest)) : rest.length < bits.length := by
  cases hs : literals.read .literalCode bits with
  | error e =>
    simp only [readToken, Bind.bind, StateT.bind, hs, Except.bind] at h
    cases h
  | ok p =>
    simp only [readToken, Bind.bind, StateT.bind, hs, Except.bind] at h
    exact Nat.lt_of_le_of_lt (shrinks_readTokenAfter _ _ h) (Code.length_lt_of_read hs)

/-! ## Bodies of blocks -/

/-- The bytes made so far, and what is left or why reading halted. -/
abbrev Progress := Array UInt8 × Except Halt (List Bool)

/-- Add `length` bytes, each a copy of the one `distance` bytes back. -/
def copyBack (out : Array UInt8) (distance : Nat) : Nat → Array UInt8
  | 0 => out
  | length + 1 => copyBack (out.push (out[out.size - distance]?.getD 0)) distance length

/-- Tokens in two codes, up to the end of the block. -/
def inflateTokens (literals distances : Code) (out : Array UInt8) (bits : List Bool) : Progress :=
  match _ : readToken literals distances bits with
  | .error halt => (out, .error halt)
  | .ok (.endOfBlock, rest) => (out, .ok rest)
  | .ok (.literal b, rest) => inflateTokens literals distances (out.push b) rest
  | .ok (.copy distance length, rest) =>
    if out.size < distance then (out, .error (.corrupt .distanceTooFar))
    else inflateTokens literals distances (copyBack out distance length) rest
termination_by bits.length
decreasing_by all_goals exact length_lt_of_readToken ‹_›

/-- Stored bytes. -/
def inflateStored (out : Array UInt8) (bits : List Bool) : Nat → Progress
  | 0 => (out, .ok bits)
  | n + 1 =>
    match BitReader.number 8 bits with
    | .error halt => (out, .error halt)
    | .ok (b, rest) => inflateStored (out.push b.toUInt8) rest n

/-- The number of stored bytes, which is given twice, the second time with all bits flipped. -/
def readStoredLength : BitReader Nat := do
  BitReader.align
  let both ← BitReader.number 32
  let length := both % 0x10000
  if both / 0x10000 + length = 0xffff then return length
  else BitReader.corrupt .storedLength

/-! ## Codes that a block gives -/

/-- The order in which the lengths of the code for lengths are given. -/
def lengthOrder : List Nat := [16, 17, 18, 0, 8, 7, 9, 6, 10, 5, 11, 4, 12, 3, 13, 2, 14, 1, 15]

/-- Numbers of three bits. -/
def readTriples : Nat → BitReader (List Nat)
  | 0 => pure []
  | n + 1 => do
    let first ← BitReader.number 3
    let rest ← readTriples n
    return first :: rest

/-- The code for lengths. It is complete, or has no symbols at all : any bit is then a zero. -/
def lengthCode? (triples : List Nat) : Option Code :=
  let given := lengthOrder.zip triples
  let lengths := (List.range 19).map fun s => ((given.find? fun e => e.1 = s).map Prod.snd).getD 0
  if lengths.all (· = 0) then some (Code.constant 0)
  else if Code.room lengths = 0 then some (Code.ofLengths lengths)
  else none

/-- What a symbol of the code for lengths adds to the lengths before it, the last of which
comes first. -/
def readRun (before : List Nat) (symbol : Nat) : BitReader (List Nat) :=
  if symbol < 16 then pure [symbol]
  else if symbol = 16 then do
    let n ← BitReader.number 2
    match before with
    | [] => BitReader.corrupt .lengthRepeat
    | last :: _ => return List.replicate (3 + n) last
  else if symbol = 17 then do
    let n ← BitReader.number 3
    return List.replicate (3 + n) 0
  else do
    let n ← BitReader.number 7
    return List.replicate (11 + n) 0

/-- Lengths in the code for lengths, until there are `total`, the last first. Each symbol adds at
least one, so that `todo`, which is at least the number that is missing, never runs out. -/
def readLengths (code : Code) (total : Nat) : (todo : Nat) → List Nat → BitReader (List Nat)
  | 0, before => pure before
  | todo + 1, before =>
    if total ≤ before.length then pure before
    else do
      let run ← readRun before (← code.read .codeLengthsSet)
      if total < before.length + run.length then BitReader.corrupt .lengthRepeat
      else readLengths code total todo (run ++ before)

/-- The codes for literals and distances that a block gives. -/
def readCodes : BitReader (Code × Code) := do
  let counts ← BitReader.number 14
  let literals := counts % 32 + 257
  let distances := counts / 32 % 32 + 1
  let triples := counts / 1024 + 4
  if 286 < literals ∨ 30 < distances then BitReader.corrupt .tooManySymbols
  else do
    let some code := lengthCode? (← readTriples triples) | BitReader.corrupt .codeLengthsSet
    let total := literals + distances
    let lengths := (← readLengths code total total []).reverse
    if lengths[256]?.getD 0 = 0 then BitReader.corrupt .missingEndOfBlock
    else do
      let some literalCode := Code.ofSymbolLengths? (lengths.take literals)
        | BitReader.corrupt .literalSet
      let some distanceCode := Code.ofSymbolLengths? (lengths.drop literals)
        | BitReader.corrupt .distanceSet
      return (literalCode, distanceCode)

/-- The fixed code for literals and lengths. -/
def fixedLiterals : Code :=
  Code.ofLengths (List.replicate 144 8 ++ List.replicate 112 9 ++ List.replicate 24 7 ++
    List.replicate 8 8)

/-- The fixed code for distances. -/
def fixedDistances : Code := Code.ofLengths (List.replicate 32 5)

/-! ## Blocks -/

/-- The body of a block of a kind. -/
def inflateBlock (kind : Nat) (out : Array UInt8) (bits : List Bool) : Progress :=
  match kind with
  | 0 =>
    match readStoredLength bits with
    | .error halt => (out, .error halt)
    | .ok (length, rest) => inflateStored out rest length
  | 1 => inflateTokens fixedLiterals fixedDistances out bits
  | 2 =>
    match readCodes bits with
    | .error halt => (out, .error halt)
    | .ok ((literals, distances), rest) => inflateTokens literals distances out rest
  | _ => (out, .error (.corrupt .blockType))

/-- Blocks up to the one that is marked as the last. Every block takes at least the three bits
of its head, so that `todo`, which is at least the number of bits, never runs out. -/
def inflateBlocks : (todo : Nat) → Array UInt8 → List Bool → Progress
  | 0, out, _ => (out, .error .starved)
  | todo + 1, out, bits =>
    match BitReader.number 3 bits with
    | .error halt => (out, .error halt)
    | .ok (head, rest) =>
      match inflateBlock (head / 2) out rest with
      | (out, .error halt) => (out, .error halt)
      | (out, .ok rest) => if head % 2 = 1 then (out, .ok rest) else inflateBlocks todo out rest

/-- What inflating bytes comes to. -/
structure Inflated where
  /-- The bytes that were made. -/
  output : List UInt8
  /-- What follows the last block, from the next whole byte on, or why reading halted. -/
  ending : Except Halt (List UInt8)

/-- The bytes that compressed data stands for. -/
def inflate (bytes : List UInt8) : Inflated :=
  let bits := bitsOfBytes bytes
  match inflateBlocks (bits.length + 1) #[] bits with
  | (out, .error halt) => ⟨out.toList, .error halt⟩
  | (out, .ok rest) => ⟨out.toList, .ok (bytes.drop (bytes.length - rest.length / 8))⟩

end Deflate

end Vicinity
