import Vicinity.Proofs.Text.Decoder

/-!
# Where decoding pauses

Between two pieces a decoder keeps only bytes that a character could begin with, so that if no
more bytes come, no more characters come either (`Decoder.eq_nil_of_feed`). All characters of a
text are therefore there when its last piece is (`Decoder.feedAll_of_yields`), and so are those of
a text that is followed by a part of a character (`Decoder.feedAll_of_reads`). This is said of the
decoders of the library, and none of them refuses bytes as another one may
(`Decoder.IsSteady.feedAll_ne_refused`).

The mark of UTF-16 is missed as soon as there are two bytes that are none
(`Decoder.orderOfMark?_of_feedAll`).
-/

namespace Vicinity

namespace Text

/-! ## Parts of characters -/

namespace Codec

variable {codec : Codec}

/-- Nothing is read where reading may pause. -/
theorem reads_iff_of_rests {bytes left : List UInt8} {cs : List Char}
    (h : codec.Rests false bytes) : codec.Reads bytes cs left ↔ cs = [] ∧ left = bytes := by
  rcases h with rfl | ⟨-, b, rest, reason, rfl, hs⟩
  · exact reads_nil_iff
  · exact reads_cons_iff_of_ne_char (by simp [hs])

theorem not_rests_of_invalid {final : Bool} {b : UInt8} {rest : List UInt8} {more : Nat}
    {reason : DecodeReason} (h : codec.step b rest = .invalid more reason) :
    ¬ codec.Rests final (b :: rest) := by
  rintro (hnil | ⟨-, b', rest', reason', hb, hs⟩)
  · cases hnil
  · cases hb
    rw [h] at hs
    cases hs

/-- The bytes of a character, cut anywhere within, end within a character. -/
theorem IsSteady.exists_incomplete (hc : codec.IsSteady) {b : UInt8} {rest tail : List UInt8}
    {c : Char} (h : codec.step b tail = .char c tail.length) (hpre : rest <+: tail)
    (hne : rest ≠ tail) : ∃ reason, codec.step b rest = .incomplete reason := by
  obtain ⟨later, rfl⟩ := hpre
  have hlater : later ≠ [] := fun hnil => hne (by rw [hnil, List.append_nil])
  cases hs : codec.step b rest with
  | char c' more =>
    have hle := hc.length_le hs
    rw [hc.char_append hs later, CodecStep.char.injEq, List.length_append] at h
    have := List.length_pos_iff.mpr hlater
    omega
  | incomplete reason => exact ⟨reason, rfl⟩
  | invalid more reason =>
    rw [hc.invalid_append hs later] at h
    cases h

end Codec

namespace Decoder

/-! ## Texts in pieces -/

/-- What is read with a codec as far as it goes, in pieces. -/
theorem feedAll_of_reads {codec : Codec} (hc : codec.IsSteady) {kept left : List UInt8}
    {pieces : List (List UInt8)} {cs : List Char} (hkept : codec.Rests false kept)
    (h : codec.Reads (kept ++ pieces.flatten) cs left) (hl : codec.Rests false left) :
    (reading codec kept).feedAll pieces = (cs, .ok (reading codec left)) := by
  induction pieces generalizing kept cs with
  | nil =>
    rw [List.flatten_nil, List.append_nil] at h
    obtain ⟨rfl, rfl⟩ := (Codec.reads_iff_of_rests hkept).mp h
    rfl
  | cons piece pieces ih =>
    rw [List.flatten_cons, ← List.append_assoc] at h
    cases hd : codec.decode false 0 (kept ++ piece) with
    | error e =>
      -- a fault would stay where it is, whatever follows
      obtain ⟨cs₁, b, rest, more, reason, hr, hi⟩ := Codec.exists_invalid_of_decodeFrom hd
      have hi := hc.invalid_append hi pieces.flatten
      obtain ⟨cs₂, -, hr⟩ := (hr.append hc pieces.flatten).split h hl
      obtain ⟨-, rfl⟩ := (Codec.reads_cons_iff_of_ne_char (by simp [hi])).mp hr
      exact absurd hl (Codec.not_rests_of_invalid hi)
    | ok p =>
      obtain ⟨cs₁, mid⟩ := p
      obtain ⟨hmid, hr⟩ := Codec.decode_eq_ok_iff.mp hd
      obtain ⟨cs₂, rfl, hr⟩ := (hr.append hc pieces.flatten).split h hl
      have hfeed : (reading codec kept).feed false piece = .ok (cs₁, reading codec mid) :=
        read_eq_ok_iff.mpr ⟨mid, hd, rfl⟩
      simp only [feedAll, hfeed, ih hmid hr]

/-- What a piece does to a decoder : it is read with a codec, kept as too short for a mark, or left
to a decoder that is not the library's own. -/
theorem feed_cases {d d' : Decoder} {final : Bool} {piece : List UInt8} {cs : List Char}
    (h : d.feed final piece = .ok (cs, d')) :
    (∃ codec position bytes left, codec.decode final position bytes = .ok (cs, left) ∧
      d' = reading codec left) ∨
    (∃ kept, d = awaitingSignature kept ∧ isPartOfMark (kept ++ piece) ∧
      d' = awaitingSignature (kept ++ piece)) ∨
    (∃ kept, d = awaitingMark kept ∧ Utf16.orderOfMark? (kept ++ piece) = none ∧
      d' = awaitingMark (kept ++ piece)) ∨
    ∃ f before, d = foreign f before ∧ d' = foreign f (before ++ [piece]) := by
  have hread : ∀ {codec : Codec} {position : Nat} {bytes : List UInt8},
      read codec final position bytes = .ok (cs, d') →
        ∃ codec position bytes left, codec.decode final position bytes = .ok (cs, left) ∧
          d' = reading codec left :=
    fun h => ⟨_, _, _, read_eq_ok_iff.mp h⟩
  cases d with
  | reading codec kept => exact Or.inl (hread h)
  | awaitingSignature kept =>
    rw [feed] at h
    by_cases hpart : isPartOfMark (kept ++ piece)
    · rw [readSigned_of_isPartOfMark hpart] at h
      cases h
      exact Or.inr (Or.inl ⟨kept, rfl, hpart, rfl⟩)
    · rw [readSigned_of_not_isPartOfMark hpart] at h
      exact Or.inl (hread h)
  | awaitingMark kept =>
    rw [feed] at h
    cases horder : Utf16.orderOfMark? (kept ++ piece) with
    | some order =>
      rw [readMarked_of_some horder] at h
      exact Or.inl (hread h)
    | none =>
      obtain ⟨-, -, rfl⟩ := (readMarked_eq_ok_iff horder).mp h
      exact Or.inr (Or.inr (Or.inl ⟨kept, rfl, horder, rfl⟩))
  | foreign f before =>
    rw [feed] at h
    split at h
    · cases h
      exact Or.inr (Or.inr (Or.inr ⟨f, before, rfl, rfl⟩))
    · cases h

theorem eq_nil_of_signed {kept : List UInt8} {cs : List Char} (hpart : isPartOfMark kept)
    (h : (awaitingSignature kept).Yields [] cs) : cs = [] := by
  obtain ⟨d, hd⟩ := h
  rw [feed, List.append_nil, readSigned_of_isPartOfMark hpart] at hd
  cases hd
  rfl

theorem eq_nil_of_marked {kept : List UInt8} {cs : List Char}
    (horder : Utf16.orderOfMark? kept = none) (h : (awaitingMark kept).Yields [] cs) :
    cs = [] := by
  rw [yields_marked_iff, List.append_nil, horder] at h
  rcases h with ⟨-, rfl⟩ | ⟨order, heq, -⟩
  · rfl
  · cases heq

/-- No characters come after the last piece. -/
theorem eq_nil_of_feed {d d' : Decoder} (hd : d.IsSteady) {piece : List UInt8}
    {cs cs' : List Char} (h : d.feed false piece = .ok (cs, d')) (hy : d'.Yields [] cs') :
    cs' = [] := by
  rcases feed_cases h with ⟨codec, position, bytes, left, hd, rfl⟩ | ⟨kept, -, hpart, rfl⟩ |
    ⟨kept, -, horder, rfl⟩ | ⟨f, before, rfl, -⟩
  · rw [yields_reading_iff, List.append_nil] at hy
    exact ((Codec.reads_iff_of_rests (Codec.decode_eq_ok_iff.mp hd).1).mp hy).1
  · exact eq_nil_of_signed hpart hy
  · exact eq_nil_of_marked horder hy
  · exact hd.elim

theorem eq_nil_of_yields_nil {e : Encoding} {cs : List Char} (h : (ofEncoding e).Yields [] cs) :
    cs = [] := by
  have hread : ∀ {codec : Codec}, (reading codec []).Yields [] cs → cs = [] := fun h =>
    (Codec.reads_nil_iff.mp (yields_reading_iff.mp h)).1
  cases e with
  | utf8 | ascii | latin1 | windows1252 | utf16LittleEndian | utf16BigEndian => exact hread h
  | utf8Signed => exact eq_nil_of_signed rfl h
  | utf16 => exact eq_nil_of_marked rfl h

theorem eq_nil_of_feedAll {d d' : Decoder} (hd : d.IsSteady) {pieces : List (List UInt8)}
    {cs cs' : List Char} (hnil : ∀ cs, d.Yields [] cs → cs = [])
    (h : d.feedAll pieces = (cs, .ok d')) (hy : d'.Yields [] cs') : cs' = [] := by
  induction pieces generalizing d cs with
  | nil =>
    cases h
    exact hnil _ hy
  | cons piece pieces ih =>
    rw [feedAll] at h
    split at h
    · cases h
    · rename_i cs₁ d₁ hfeed
      obtain ⟨-, hend⟩ := Prod.mk.inj h
      exact ih (hd.feed hfeed) (fun cs hcs => eq_nil_of_feed hd hfeed hcs) (Prod.ext rfl hend)

/-- All characters of a text are given with its pieces. -/
theorem feedAll_of_yields {e : Encoding} {pieces : List (List UInt8)} {cs : List Char}
    (h : (ofEncoding e).Yields pieces.flatten cs) :
    ∃ d, (ofEncoding e).feedAll pieces = (cs, .ok d) := by
  have hd := isSteady_ofEncoding e
  obtain ⟨cs₁, d, cs₂, hall, hy, rfl⟩ := (yields_flatten_iff hd.joins).mp h
  obtain rfl := eq_nil_of_feedAll hd (fun _ => eq_nil_of_yields_nil) hall hy
  exact ⟨d, by rw [hall, List.append_nil]⟩

/-! ## Bytes that are refused -/

theorem isSteady_of_feedAll {d d' : Decoder} (hd : d.IsSteady) {pieces : List (List UInt8)}
    {cs : List Char} (h : d.feedAll pieces = (cs, .ok d')) : d'.IsSteady := by
  induction pieces generalizing d cs with
  | nil =>
    cases h
    exact hd
  | cons piece pieces ih =>
    rw [Decoder.feedAll] at h
    split at h
    · cases h
    · rename_i cs₁ d₁ hfeed
      exact ih (hd.feed hfeed) (Prod.ext rfl (Prod.mk.inj h).2)

theorem IsSteady.feed_ne_refused {d : Decoder} (hd : d.IsSteady) {final : Bool}
    {piece : List UInt8} {wording : String} : d.feed final piece ≠ .error (.refused wording) := by
  have hread : ∀ {codec : Codec} {position : Nat} {bytes : List UInt8},
      read codec final position bytes ≠ .error (.refused wording) := by
    intro codec position bytes hread
    rw [read] at hread
    split at hread <;> cases hread
  intro h
  cases d with
  | reading codec kept => exact hread h
  | awaitingSignature kept =>
    rw [Decoder.feed, readSigned] at h
    split at h
    · cases h
    · split at h <;> exact hread h
  | awaitingMark kept =>
    rw [Decoder.feed, readMarked] at h
    split at h
    · exact hread h
    · split at h
      · cases h
      · split at h <;> cases h
  | foreign f before => exact hd.elim

theorem IsSteady.feedAll_ne_refused {d : Decoder} (hd : d.IsSteady) {pieces : List (List UInt8)}
    {cs : List Char} {wording : String} :
    d.feedAll pieces ≠ (cs, .error (.refused wording)) := by
  induction pieces generalizing d cs with
  | nil =>
    intro h
    cases h
  | cons piece pieces ih =>
    intro h
    rw [feedAll] at h
    split at h
    · rename_i hfeed
      cases h
      exact hd.feed_ne_refused hfeed
    · rename_i cs₁ d₁ hfeed
      exact ih (hd.feed hfeed) (Prod.ext rfl (Prod.mk.inj h).2)

/-! ## Marks that are missing -/

/-- The mark is missed where there are two bytes that are none. -/
theorem orderOfMark?_of_feed {d : Decoder} {final : Bool} {piece : List UInt8}
    (h : d.feed final piece = .error .missingMark) :
    ∃ kept, d = awaitingMark kept ∧ 2 ≤ (kept ++ piece).length ∧
      Utf16.orderOfMark? (kept ++ piece) = none := by
  have hread : ∀ {codec : Codec} {position : Nat} {bytes : List UInt8},
      read codec final position bytes ≠ .error .missingMark := by
    intro codec position bytes hread
    rw [read] at hread
    split at hread <;> cases hread
  cases d with
  | reading codec kept => exact absurd h hread
  | awaitingSignature kept =>
    rw [feed] at h
    by_cases hpart : isPartOfMark (kept ++ piece)
    · rw [readSigned_of_isPartOfMark hpart] at h
      cases h
    · rw [readSigned_of_not_isPartOfMark hpart] at h
      exact absurd h hread
  | awaitingMark kept =>
    rw [feed] at h
    cases horder : Utf16.orderOfMark? (kept ++ piece) with
    | some order =>
      rw [readMarked_of_some horder] at h
      exact absurd h hread
    | none =>
      refine ⟨kept, rfl, ?_, horder⟩
      simp only [readMarked, horder] at h
      split at h
      · cases h
      · split at h
        · omega
        · cases h
  | foreign f before =>
    rw [feed] at h
    split at h
    · cases h
    · rename_i g hfeed
      cases g <;> cases h

/-- All bytes are kept as long as the mark is awaited. -/
theorem eq_awaitingMark_of_feed {d : Decoder} {final : Bool} {piece kept : List UInt8}
    {cs : List Char} (h : d.feed final piece = .ok (cs, awaitingMark kept)) :
    ∃ before, d = awaitingMark before ∧ kept = before ++ piece := by
  rcases feed_cases h with ⟨_, _, _, _, -, hd⟩ | ⟨_, -, -, hd⟩ | ⟨before, hbefore, -, hd⟩ |
    ⟨_, _, -, hd⟩
  · cases hd
  · cases hd
  · cases hd
    exact ⟨before, hbefore, rfl⟩
  · cases hd

theorem eq_awaitingMark_of_feedAll {d : Decoder} {pieces : List (List UInt8)}
    {kept : List UInt8} {cs : List Char}
    (h : d.feedAll pieces = (cs, .ok (awaitingMark kept))) :
    ∃ before, d = awaitingMark before ∧ kept = before ++ pieces.flatten := by
  induction pieces generalizing d cs with
  | nil =>
    cases h
    exact ⟨kept, rfl, (List.append_nil kept).symm⟩
  | cons piece pieces ih =>
    rw [feedAll] at h
    split at h
    · cases h
    · rename_i cs₁ d₁ hfeed
      obtain ⟨mid, rfl, rfl⟩ := ih (Prod.ext rfl (Prod.mk.inj h).2)
      obtain ⟨before, rfl, rfl⟩ := eq_awaitingMark_of_feed hfeed
      exact ⟨before, rfl, by rw [List.flatten_cons, List.append_assoc]⟩

theorem orderOfMark?_of_feedAll {d : Decoder} {pieces : List (List UInt8)} {cs : List Char}
    (h : d.feedAll pieces = (cs, .error .missingMark)) :
    ∃ kept, d = awaitingMark kept ∧ 2 ≤ (kept ++ pieces.flatten).length ∧
      Utf16.orderOfMark? (kept ++ pieces.flatten) = none := by
  induction pieces generalizing d cs with
  | nil => cases h
  | cons piece pieces ih =>
    rw [feedAll] at h
    split at h
    · rename_i f hfeed
      cases h
      obtain ⟨kept, rfl, hlen, horder⟩ := orderOfMark?_of_feed hfeed
      refine ⟨kept, rfl, ?_, ?_⟩
      · simp only [List.length_append, List.flatten_cons] at hlen ⊢
        omega
      · rw [List.flatten_cons, ← List.append_assoc, orderOfMark?_append hlen, horder]
    · rename_i cs₁ d₁ hfeed
      obtain ⟨mid, rfl, hlen, horder⟩ := ih (Prod.ext rfl (Prod.mk.inj h).2)
      obtain ⟨kept, rfl, rfl⟩ := eq_awaitingMark_of_feed hfeed
      rw [List.append_assoc, ← List.flatten_cons] at hlen horder
      exact ⟨kept, rfl, hlen, horder⟩

end Decoder

end Text

end Vicinity
