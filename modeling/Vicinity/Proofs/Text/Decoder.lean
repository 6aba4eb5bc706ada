import Vicinity.Proofs.Text.Codec.SingleByte
import Vicinity.Proofs.Text.Codec.Utf16
import Vicinity.Proofs.Text.Codec.Utf8
import Vicinity.Text.Decoder

/-!
# Pieces do not matter to a decoder

`Decoder.Yields` is decoding at once : the characters that a decoder gives for bytes that are all
there is. Its three states are described by `yields_reading_iff`, `yields_signed_iff` and
`yields_marked_iff`, which mention neither pieces nor positions.

What a decoder yields for two pieces together is what it gives for the first, followed by what it
then yields for the second (`Decoder.yields_append_iff`); in particular the first piece is no
fault if both are none. By induction this holds of any number of pieces
(`Decoder.yields_flatten_append_iff`). Of a decoder that is not the library's own it is assumed
(`ForeignDecoder.Joins`).
-/

namespace Vicinity

namespace Text

/-- The characters of pieces are those of the pieces joined, as it should be of every decoder. -/
def ForeignDecoder.Joins (d : ForeignDecoder) : Prop :=
  ∀ before piece later cs, d.feed before true (piece ++ later) = .ok cs ↔
    ∃ cs₁ cs₂, d.feed before false piece = .ok cs₁ ∧
      d.feed (before ++ [piece]) true later = .ok cs₂ ∧ cs = cs₁ ++ cs₂

namespace Decoder

/-- The decoder gives the characters `cs` for bytes that are all there is. -/
def Yields (d : Decoder) (bytes : List UInt8) (cs : List Char) : Prop :=
  ∃ d', d.feed true bytes = .ok (cs, d')

theorem Yields.unique {d : Decoder} {bytes : List UInt8} {cs cs' : List Char}
    (h : d.Yields bytes cs) (h' : d.Yields bytes cs') : cs = cs' := by
  obtain ⟨d₁, h₁⟩ := h
  obtain ⟨d₂, h₂⟩ := h'
  rw [h₁] at h₂
  cases h₂
  rfl

/-- The decoder is one of the library's own, and the codec it reads with is steady. -/
def IsSteady : Decoder → Prop
  | reading codec _ => codec.IsSteady
  | awaitingSignature _ => True
  | awaitingMark _ => True
  | foreign _ _ => False

theorem isSteady_ofEncoding (e : Encoding) : (ofEncoding e).IsSteady := by
  cases e with
  | utf8 => exact Codec.isSteady_utf8
  | utf8Signed => exact trivial
  | ascii => exact Codec.isSteady_ascii
  | latin1 => exact Codec.isSteady_latin1
  | windows1252 => exact Codec.isSteady_windows1252
  | utf16 => exact trivial
  | utf16LittleEndian => exact Codec.isSteady_utf16 _
  | utf16BigEndian => exact Codec.isSteady_utf16 _

/-! ## Reading with a codec -/

theorem read_eq_ok_iff {codec : Codec} {final : Bool} {position : Nat} {bytes : List UInt8}
    {cs : List Char} {d : Decoder} :
    read codec final position bytes = .ok (cs, d) ↔
      ∃ left, codec.decode final position bytes = .ok (cs, left) ∧ d = reading codec left := by
  rw [read]
  split
  · rename_i cs' left h
    simp only [h, Except.ok.injEq, Prod.mk.injEq]
    constructor
    · rintro ⟨rfl, rfl⟩
      exact ⟨left, ⟨rfl, rfl⟩, rfl⟩
    · rintro ⟨left', ⟨rfl, rfl⟩, rfl⟩
      exact ⟨rfl, rfl⟩
  · rename_i e h
    simp [h]

theorem exists_read_final_iff {codec : Codec} {position : Nat} {bytes : List UInt8}
    {cs : List Char} :
    (∃ d, read codec true position bytes = .ok (cs, d)) ↔ codec.Reads bytes cs [] := by
  simp only [read_eq_ok_iff, Codec.decode_final_eq_ok_iff]
  constructor
  · rintro ⟨d, left, ⟨rfl, hr⟩, rfl⟩
    exact hr
  · intro hr
    exact ⟨_, [], ⟨rfl, hr⟩, rfl⟩

theorem yields_reading_iff {codec : Codec} {kept bytes : List UInt8} {cs : List Char} :
    (reading codec kept).Yields bytes cs ↔ codec.Reads (kept ++ bytes) cs [] :=
  exists_read_final_iff

/-- Reading in two pieces with a steady codec. -/
theorem reads_append_iff_read {codec : Codec} (hc : codec.IsSteady) (position : Nat)
    {piece later : List UInt8} {cs : List Char} :
    codec.Reads (piece ++ later) cs [] ↔
      ∃ cs₁ d' cs₂, read codec false position piece = .ok (cs₁, d') ∧ d'.Yields later cs₂ ∧
        cs = cs₁ ++ cs₂ := by
  rw [Codec.reads_append_iff hc position]
  constructor
  · rintro ⟨cs₁, cs₂, left, hd, hl, rfl⟩
    exact ⟨cs₁, _, cs₂, read_eq_ok_iff.mpr ⟨left, hd, rfl⟩, yields_reading_iff.mpr hl, rfl⟩
  · rintro ⟨cs₁, d', cs₂, hd, hl, rfl⟩
    obtain ⟨left, hd', rfl⟩ := read_eq_ok_iff.mp hd
    exact ⟨cs₁, cs₂, left, hd', yields_reading_iff.mp hl, rfl⟩

theorem isSteady_of_read {codec : Codec} (hc : codec.IsSteady) {final : Bool} {position : Nat}
    {bytes : List UInt8} {cs : List Char} {d : Decoder}
    (h : read codec final position bytes = .ok (cs, d)) : d.IsSteady := by
  obtain ⟨left, -, rfl⟩ := read_eq_ok_iff.mp h
  exact hc

/-! ## Signed UTF-8 -/

/-- Whether bytes are too few to tell if they begin with the mark. -/
def isPartOfMark (bytes : List UInt8) : Bool := bytes.length < 3 && bytes.isPrefixOf Utf8.mark

/-- Bytes without the mark at their beginning, if there is one. -/
def withoutMark (bytes : List UInt8) : List UInt8 :=
  if Utf8.mark.isPrefixOf bytes then bytes.drop 3 else bytes

theorem readSigned_of_isPartOfMark {final : Bool} {bytes : List UInt8} (h : isPartOfMark bytes) :
    readSigned final bytes = .ok ([], awaitingSignature bytes) := by
  rw [isPartOfMark, Bool.and_eq_true, decide_eq_true_iff] at h
  rw [readSigned, if_pos h]

theorem readSigned_of_not_isPartOfMark {final : Bool} {bytes : List UInt8}
    (h : ¬ isPartOfMark bytes) :
    readSigned final bytes = read .utf8 final 0 (withoutMark bytes) := by
  rw [isPartOfMark, Bool.and_eq_true, decide_eq_true_iff] at h
  rw [readSigned, if_neg h, withoutMark]
  split <;> rfl

theorem isPartOfMark_iff {bytes : List UInt8} :
    isPartOfMark bytes ↔ bytes.length < 3 ∧ bytes <+: Utf8.mark := by
  rw [isPartOfMark, Bool.and_eq_true, decide_eq_true_iff, List.isPrefixOf_iff_prefix]

theorem not_isPartOfMark_of_le {bytes : List UInt8} (h : 3 ≤ bytes.length) :
    ¬ isPartOfMark bytes := by
  rw [isPartOfMark_iff]
  omega

/-- If bytes tell whether there is a mark, more bytes tell the same. -/
theorem not_isPartOfMark_append {bytes : List UInt8} (h : ¬ isPartOfMark bytes)
    (later : List UInt8) : ¬ isPartOfMark (bytes ++ later) := by
  rw [isPartOfMark_iff] at h ⊢
  rintro ⟨hlen, hpre⟩
  rw [List.length_append] at hlen
  exact h ⟨by omega, (List.prefix_append bytes later).trans hpre⟩

theorem mark_prefix_append_iff {bytes : List UInt8} (h : ¬ isPartOfMark bytes)
    (later : List UInt8) : Utf8.mark <+: bytes ++ later ↔ Utf8.mark <+: bytes := by
  refine ⟨fun hpre => ?_, fun hpre => hpre.trans (List.prefix_append bytes later)⟩
  rcases Nat.lt_or_ge bytes.length 3 with hlt | hge
  · have hpart : bytes <+: Utf8.mark :=
      List.prefix_of_prefix_length_le (List.prefix_append bytes later) hpre (Nat.le_of_lt hlt)
    exact absurd (isPartOfMark_iff.mpr ⟨hlt, hpart⟩) h
  · exact List.prefix_of_prefix_length_le hpre (List.prefix_append bytes later) hge

theorem withoutMark_append {bytes : List UInt8} (h : ¬ isPartOfMark bytes) (later : List UInt8) :
    withoutMark (bytes ++ later) = withoutMark bytes ++ later := by
  simp only [withoutMark, List.isPrefixOf_iff_prefix, mark_prefix_append_iff h later]
  split
  · rename_i hpre
    have hlen : 3 ≤ bytes.length := hpre.length_le
    rw [List.drop_append_of_le_length hlen]
  · rfl

theorem yields_signed_iff {kept bytes : List UInt8} {cs : List Char}
    (h : ¬ isPartOfMark (kept ++ bytes)) :
    (awaitingSignature kept).Yields bytes cs ↔
      Codec.utf8.Reads (withoutMark (kept ++ bytes)) cs [] := by
  simp only [Yields, feed, readSigned_of_not_isPartOfMark h]
  exact exists_read_final_iff

/-! ## UTF-16 with a mark -/

theorem orderOfMark?_append {bytes : List UInt8} (h : 2 ≤ bytes.length) (later : List UInt8) :
    Utf16.orderOfMark? (bytes ++ later) = Utf16.orderOfMark? bytes := by
  match bytes with
  | b :: b' :: rest =>
    rw [List.cons_append, List.cons_append]
    simp only [Utf16.orderOfMark?]
    split <;> split <;> simp_all

theorem le_length_of_orderOfMark? {bytes : List UInt8} {order : ByteOrder}
    (h : Utf16.orderOfMark? bytes = some order) : 2 ≤ bytes.length := by
  match bytes with
  | [] => cases h
  | [b] => simp [Utf16.orderOfMark?] at h
  | b :: b' :: rest => simp

theorem readMarked_of_some {final : Bool} {bytes : List UInt8} {order : ByteOrder}
    (h : Utf16.orderOfMark? bytes = some order) :
    readMarked final bytes = read (.utf16 order) final 2 (bytes.drop 2) := by
  simp only [readMarked, h]

/-- A character takes at least two bytes. -/
theorem length_of_reads_utf16 {order : ByteOrder} {bytes left : List UInt8} {c : Char}
    {cs : List Char} (h : (Codec.utf16 order).Reads bytes (c :: cs) left) :
    left.length + 2 ≤ bytes.length := by
  cases h with
  | char hs hr =>
    have hle := (Codec.isSteady_utf16 order).length_le hs
    have hone := Utf16.one_le_of_step hs
    have hlen := hr.length_le
    rw [List.length_drop] at hlen
    rw [List.length_cons]
    omega

/-- Without a mark the bytes are kept as long as they could begin a character. -/
theorem readMarked_eq_ok_iff {final : Bool} {bytes : List UInt8} {cs : List Char} {d : Decoder}
    (h : Utf16.orderOfMark? bytes = none) :
    readMarked final bytes = .ok (cs, d) ↔
      (Codec.utf16 .littleEndian).Rests final bytes ∧ cs = [] ∧ d = awaitingMark bytes := by
  simp only [readMarked, h]
  constructor
  · intro hd
    split at hd
    · cases hd
    · rename_i cs' left hdec
      obtain ⟨hrests, hreads⟩ := Codec.decode_eq_ok_iff.mp hdec
      split at hd
      · cases hd
      · rename_i hshort
        cases hd
        cases cs' with
        | nil =>
          cases hreads
          exact ⟨hrests, rfl, rfl⟩
        | cons c cs' => exact absurd (length_of_reads_utf16 hreads) hshort
  · rintro ⟨hrests, rfl, rfl⟩
    rw [Codec.decode_eq_ok_iff.mpr ⟨hrests, .done bytes⟩]
    simp

theorem yields_marked_iff {kept bytes : List UInt8} {cs : List Char} :
    (awaitingMark kept).Yields bytes cs ↔
      kept ++ bytes = [] ∧ cs = [] ∨ ∃ order, Utf16.orderOfMark? (kept ++ bytes) = some order ∧
        (Codec.utf16 order).Reads ((kept ++ bytes).drop 2) cs [] := by
  simp only [Yields, feed]
  cases h : Utf16.orderOfMark? (kept ++ bytes) with
  | some order =>
    have hne : kept ++ bytes ≠ [] := by
      intro hnil
      rw [hnil] at h
      cases h
    simp only [readMarked_of_some h, exists_read_final_iff, hne, false_and, false_or,
      Option.some.injEq, exists_eq_left']
  | none =>
    simp only [readMarked_eq_ok_iff h, reduceCtorEq, false_and, exists_false, or_false]
    constructor
    · rintro ⟨d, hrests, rfl, rfl⟩
      rcases hrests with hnil | ⟨hf, -⟩
      · exact ⟨hnil, rfl⟩
      · cases hf
    · rintro ⟨hnil, rfl⟩
      exact ⟨_, Or.inl hnil, rfl, rfl⟩

/-! ## Pieces -/

theorem IsSteady.feed {d d' : Decoder} (hd : d.IsSteady) {final : Bool} {piece : List UInt8}
    {cs : List Char} (h : d.feed final piece = .ok (cs, d')) : d'.IsSteady := by
  cases d with
  | reading codec kept => exact isSteady_of_read hd h
  | awaitingSignature kept =>
    rw [Decoder.feed] at h
    by_cases hpart : isPartOfMark (kept ++ piece)
    · rw [readSigned_of_isPartOfMark hpart] at h
      cases h
      exact trivial
    · rw [readSigned_of_not_isPartOfMark hpart] at h
      exact isSteady_of_read Codec.isSteady_utf8 h
  | awaitingMark kept =>
    rw [Decoder.feed] at h
    cases horder : Utf16.orderOfMark? (kept ++ piece) with
    | some order =>
      rw [readMarked_of_some horder] at h
      exact isSteady_of_read (Codec.isSteady_utf16 order) h
    | none =>
      obtain ⟨-, -, rfl⟩ := (readMarked_eq_ok_iff horder).mp h
      exact trivial
  | foreign d before => exact hd.elim

theorem signed_append_iff {kept piece later : List UInt8} {cs : List Char} :
    (awaitingSignature kept).Yields (piece ++ later) cs ↔
      ∃ cs₁ d' cs₂, (awaitingSignature kept).feed false piece = .ok (cs₁, d') ∧
        d'.Yields later cs₂ ∧ cs = cs₁ ++ cs₂ := by
  rw [feed]
  by_cases hpart : isPartOfMark (kept ++ piece)
  · rw [readSigned_of_isPartOfMark hpart, Yields, feed, ← List.append_assoc]
    constructor
    · intro h
      exact ⟨[], _, cs, rfl, h, rfl⟩
    · rintro ⟨cs₁, d', cs₂, heq, h, rfl⟩
      cases heq
      exact h
  · rw [readSigned_of_not_isPartOfMark hpart, yields_signed_iff, ← List.append_assoc,
      withoutMark_append hpart]
    · exact reads_append_iff_read Codec.isSteady_utf8 0
    · rw [← List.append_assoc]
      exact not_isPartOfMark_append hpart later

theorem marked_append_iff {kept piece later : List UInt8} {cs : List Char} :
    (awaitingMark kept).Yields (piece ++ later) cs ↔
      ∃ cs₁ d' cs₂, (awaitingMark kept).feed false piece = .ok (cs₁, d') ∧
        d'.Yields later cs₂ ∧ cs = cs₁ ++ cs₂ := by
  rw [feed]
  cases horder : Utf16.orderOfMark? (kept ++ piece) with
  | some order =>
    have hlen := le_length_of_orderOfMark? horder
    have hne : ¬ (kept ++ piece ++ later = [] ∧ cs = []) := by
      rintro ⟨hnil, -⟩
      rw [(List.append_eq_nil_iff.mp hnil).1] at hlen
      cases hlen
    rw [readMarked_of_some horder, yields_marked_iff, ← List.append_assoc,
      orderOfMark?_append hlen, horder, or_iff_right hne, List.drop_append_of_le_length hlen]
    simp only [Option.some.injEq, exists_eq_left']
    exact reads_append_iff_read (Codec.isSteady_utf16 order) 2
  | none =>
    by_cases hrests : (Codec.utf16 .littleEndian).Rests false (kept ++ piece)
    · rw [(readMarked_eq_ok_iff horder).mpr ⟨hrests, rfl, rfl⟩, Yields, feed, ← List.append_assoc]
      constructor
      · intro h
        exact ⟨[], _, cs, rfl, h, rfl⟩
      · rintro ⟨cs₁, d', cs₂, heq, h, rfl⟩
        cases heq
        exact h
    · -- fewer than two bytes always rest, so that the missing mark shows in the first piece
      have hlen : 2 ≤ (kept ++ piece).length := by
        match hbytes : kept ++ piece with
        | [] => exact absurd (Or.inl hbytes) hrests
        | [b] => exact absurd (Or.inr ⟨rfl, b, [], .truncated, hbytes, rfl⟩) hrests
        | b :: b' :: rest => simp
      rw [yields_marked_iff, ← List.append_assoc, orderOfMark?_append hlen, horder]
      refine iff_of_false ?_ ?_
      · rintro (⟨hnil, -⟩ | ⟨order, heq, -⟩)
        · rw [(List.append_eq_nil_iff.mp hnil).1] at hlen
          cases hlen
        · cases heq
      · rintro ⟨cs₁, d', cs₂, hfeed, -, -⟩
        exact hrests ((readMarked_eq_ok_iff horder).mp hfeed).1

/-- The characters of pieces are those of the pieces joined. -/
def Joins : Decoder → Prop
  | foreign d _ => d.Joins
  | d => d.IsSteady

theorem IsSteady.joins {d : Decoder} (hd : d.IsSteady) : d.Joins := by
  cases d with
  | foreign => exact hd.elim
  | _ => exact hd

theorem Joins.feed {d d' : Decoder} (hd : d.Joins) {final : Bool} {piece : List UInt8}
    {cs : List Char} (h : d.feed final piece = .ok (cs, d')) : d'.Joins := by
  cases d with
  | reading codec kept => exact (IsSteady.feed (d := reading codec kept) hd h).joins
  | awaitingSignature kept => exact (IsSteady.feed (d := awaitingSignature kept) trivial h).joins
  | awaitingMark kept => exact (IsSteady.feed (d := awaitingMark kept) trivial h).joins
  | foreign f before =>
    rw [Decoder.feed] at h
    split at h
    · cases h
      exact hd
    · cases h

theorem foreign_append_iff {f : ForeignDecoder} (hf : f.Joins) {before : List (List UInt8)}
    {piece later : List UInt8} {cs : List Char} :
    (foreign f before).Yields (piece ++ later) cs ↔
      ∃ cs₁ d' cs₂, (foreign f before).feed false piece = .ok (cs₁, d') ∧ d'.Yields later cs₂ ∧
        cs = cs₁ ++ cs₂ := by
  have hfeed : ∀ {before : List (List UInt8)} {final : Bool} {piece : List UInt8} {cs : List Char}
      {d' : Decoder}, (foreign f before).feed final piece = .ok (cs, d') ↔
        f.feed before final piece = .ok cs ∧ d' = foreign f (before ++ [piece]) := by
    intro before final piece cs d'
    rw [feed]
    cases f.feed before final piece <;> simp [eq_comm]
  have hyields : ∀ {before : List (List UInt8)} {bytes : List UInt8} {cs : List Char},
      (foreign f before).Yields bytes cs ↔ f.feed before true bytes = .ok cs := by
    intro before bytes cs
    simp only [Yields, hfeed, exists_and_left, exists_eq, and_true]
  rw [hyields, hf]
  constructor
  · rintro ⟨cs₁, cs₂, h₁, h₂, rfl⟩
    exact ⟨cs₁, _, cs₂, hfeed.mpr ⟨h₁, rfl⟩, hyields.mpr h₂, rfl⟩
  · rintro ⟨cs₁, d', cs₂, h, hy, rfl⟩
    obtain ⟨h₁, rfl⟩ := hfeed.mp h
    exact ⟨cs₁, cs₂, h₁, hyields.mp hy, rfl⟩

/-- What is yielded for two pieces is what is given for the first and then yielded for the
second. -/
theorem yields_append_iff {d : Decoder} (hd : d.Joins) {piece later : List UInt8}
    {cs : List Char} :
    d.Yields (piece ++ later) cs ↔
      ∃ cs₁ d' cs₂, d.feed false piece = .ok (cs₁, d') ∧ d'.Yields later cs₂ ∧
        cs = cs₁ ++ cs₂ := by
  cases d with
  | reading codec kept =>
    rw [yields_reading_iff, ← List.append_assoc]
    exact reads_append_iff_read hd 0
  | awaitingSignature kept => exact signed_append_iff
  | awaitingMark kept => exact marked_append_iff
  | foreign f before => exact foreign_append_iff hd

/-- What is yielded for any number of pieces and what follows them. -/
theorem yields_flatten_append_iff {d : Decoder} (hd : d.Joins) {pieces : List (List UInt8)}
    {later : List UInt8} {cs : List Char} :
    d.Yields (pieces.flatten ++ later) cs ↔
      ∃ cs₁ d' cs₂, d.feedAll pieces = (cs₁, .ok d') ∧ d'.Yields later cs₂ ∧ cs = cs₁ ++ cs₂ := by
  induction pieces generalizing d cs with
  | nil =>
    simp only [feedAll, List.flatten_nil, List.nil_append]
    constructor
    · intro h
      exact ⟨[], d, cs, rfl, h, rfl⟩
    · rintro ⟨cs₁, d', cs₂, heq, h, rfl⟩
      cases heq
      exact h
  | cons piece pieces ih =>
    rw [List.flatten_cons, List.append_assoc, yields_append_iff hd, feedAll]
    constructor
    · rintro ⟨cs₁, d', cs₂, hfeed, hy, rfl⟩
      obtain ⟨cs₁', d'', cs₂', hall, hy', rfl⟩ := (ih (hd.feed hfeed)).mp hy
      refine ⟨cs₁ ++ cs₁', d'', cs₂', ?_, hy', (List.append_assoc ..).symm⟩
      simp only [hfeed, hall]
    · rintro ⟨cs₁, d', cs₂, hall, hy, rfl⟩
      split at hall
      · cases hall
      · rename_i cs₁' d'' hfeed
        obtain ⟨rfl, hend⟩ := Prod.mk.inj hall
        refine ⟨cs₁', d'', (d''.feedAll pieces).1 ++ cs₂, hfeed, ?_, List.append_assoc ..⟩
        exact (ih (hd.feed hfeed)).mpr ⟨_, d', cs₂, Prod.ext rfl hend, hy, rfl⟩

theorem yields_flatten_iff {d : Decoder} (hd : d.Joins) {pieces : List (List UInt8)}
    {cs : List Char} :
    d.Yields pieces.flatten cs ↔
      ∃ cs₁ d' cs₂, d.feedAll pieces = (cs₁, .ok d') ∧ d'.Yields [] cs₂ ∧ cs = cs₁ ++ cs₂ := by
  rw [← yields_flatten_append_iff hd, List.append_nil]

end Decoder

end Text

/-- The characters of pieces are those of the pieces joined, as they always are in an encoding of
the library. -/
def TextEncoding.Joins : TextEncoding → Prop
  | own _ => True
  | foreign d => d.Joins

theorem TextEncoding.Joins.decoder {e : TextEncoding} (h : e.Joins) : e.decoder.Joins := by
  cases e with
  | own e => exact (Text.Decoder.isSteady_ofEncoding e).joins
  | foreign d => exact h

end Vicinity
