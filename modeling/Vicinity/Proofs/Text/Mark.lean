import Vicinity.Proofs.Text.Pause

/-!
# When the mark of UTF-16 is missed

Bytes of UTF-16 that begin without a mark are taken for little-endian until there is a character
(`Decoder.IsUnmarked`); only then the mark is missed. Before that it can be found that the bytes
are no characters at all, which is another fault. So the mark is missed exactly if some of the
pieces, the first ones, hold a character and no fault (`Decoder.feedAll_eq_missingMark_iff`), and
never at the end, when nothing but a part of a character is kept.
-/

namespace Vicinity

namespace Text

/-! ## Faults of a codec -/

/-- Where no character begins, nothing that is read of more bytes comes to an end. -/
theorem Codec.not_reads_of_decode_eq_error {codec : Codec} (hc : codec.IsSteady) {position : Nat}
    {bytes : List UInt8} {e : DecodeError} (h : codec.decode false position bytes = .error e)
    {later left : List UInt8} {cs : List Char} (hr : codec.Reads (bytes ++ later) cs left) :
    ¬ codec.Rests false left := by
  intro hl
  obtain ⟨cs₁, b, rest, more, reason, hb, hi⟩ := exists_invalid_of_decodeFrom h
  have hi' := hc.invalid_append hi later
  obtain ⟨cs₂, -, hrest⟩ := (hb.append hc later).split hr hl
  obtain ⟨-, rfl⟩ := (reads_cons_iff_of_ne_char (by simp [hi'])).mp hrest
  exact not_rests_of_invalid hi' hl

namespace Decoder

/-! ## Bytes without a mark -/

/-- The bytes begin without a mark and, taken for little-endian, with a character, and are decoded
as far as they go. -/
def IsUnmarked (bytes : List UInt8) : Prop :=
  Utf16.orderOfMark? bytes = none ∧
    ∃ c cs left, (Codec.utf16 .littleEndian).decode false 0 bytes = .ok (c :: cs, left)

/-- Bytes that are kept while a mark is awaited : too few for a character, if they begin one. -/
def AwaitMark (kept : List UInt8) : Prop :=
  Utf16.orderOfMark? kept = none ∧ (Codec.utf16 .littleEndian).Rests false kept

theorem awaitMark_nil : AwaitMark [] := ⟨rfl, .inl rfl⟩

theorem AwaitMark.not_isUnmarked {kept : List UInt8} (h : AwaitMark kept) : ¬ IsUnmarked kept := by
  rintro ⟨-, c, cs, left, hdec⟩
  cases ((Codec.reads_iff_of_rests h.2).mp (Codec.decode_eq_ok_iff.mp hdec).2).1

/-- What becomes of bytes that begin without a mark. -/
theorem readMarked_cases {bytes : List UInt8} (h : Utf16.orderOfMark? bytes = none) :
    (AwaitMark bytes ∧ readMarked false bytes = .ok ([], awaitingMark bytes)) ∨
    (IsUnmarked bytes ∧ readMarked false bytes = .error .missingMark) ∨
    ∃ e, (Codec.utf16 .littleEndian).decode false 0 bytes = .error e ∧
      readMarked false bytes = .error (.undecodable e) := by
  cases hdec : (Codec.utf16 .littleEndian).decode false 0 bytes with
  | error e => exact .inr (.inr ⟨e, rfl, by simp only [readMarked, h, hdec]⟩)
  | ok p =>
    obtain ⟨cs, left⟩ := p
    obtain ⟨hrests, hreads⟩ := Codec.decode_eq_ok_iff.mp hdec
    cases cs with
    | nil =>
      cases hreads
      exact .inl ⟨⟨h, hrests⟩, (readMarked_eq_ok_iff h).mpr ⟨hrests, rfl, rfl⟩⟩
    | cons c cs =>
      refine .inr (.inl ⟨⟨h, c, cs, left, hdec⟩, ?_⟩)
      simp only [readMarked, h, hdec, if_pos (length_of_reads_utf16 hreads)]

/-! ## All pieces -/

/-- Where the mark is awaited it is not missed before the next piece. -/
theorem exists_isUnmarked_cons_iff {kept piece : List UInt8} {pieces : List (List UInt8)}
    (hkept : AwaitMark kept) :
    (∃ front, front <+: piece :: pieces ∧ IsUnmarked (kept ++ front.flatten)) ↔
      ∃ front, front <+: pieces ∧ IsUnmarked (kept ++ piece ++ front.flatten) := by
  constructor
  · rintro ⟨front, hpre, hfront⟩
    obtain rfl | ⟨front', rfl, hpre'⟩ := List.prefix_cons_iff.mp hpre
    · rw [List.flatten_nil, List.append_nil] at hfront
      exact absurd hfront hkept.not_isUnmarked
    · exact ⟨front', hpre', by simpa using hfront⟩
  · rintro ⟨front, hpre, hfront⟩
    exact ⟨piece :: front, List.cons_prefix_cons.mpr ⟨rfl, hpre⟩, by simpa using hfront⟩

/-- The mark is missed in the first piece that makes a character of the bytes so far, if none of
them is found to be no character. -/
theorem feedAll_eq_missingMark_iff {kept : List UInt8} {pieces : List (List UInt8)}
    (hkept : AwaitMark kept) :
    ((awaitingMark kept).feedAll pieces).2 = .error .missingMark ↔
      ∃ front, front <+: pieces ∧ IsUnmarked (kept ++ front.flatten) := by
  induction pieces generalizing kept with
  | nil =>
    simp only [feedAll, reduceCtorEq, List.prefix_nil, exists_eq_left, List.flatten_nil,
      List.append_nil, hkept.not_isUnmarked]
  | cons piece pieces ih =>
    rw [exists_isUnmarked_cons_iff hkept]
    cases horder : Utf16.orderOfMark? (kept ++ piece) with
    | some order =>
      have hmark (later : List UInt8) : Utf16.orderOfMark? (kept ++ piece ++ later) ≠ none := by
        rw [orderOfMark?_append (le_length_of_orderOfMark? horder), horder]
        exact Option.some_ne_none order
      refine iff_of_false (fun h => ?_) ?_
      · obtain ⟨_, hd, -, hnone⟩ := orderOfMark?_of_feedAll (Prod.ext rfl h)
        cases hd
        rw [List.flatten_cons, ← List.append_assoc] at hnone
        exact hmark _ hnone
      · rintro ⟨front, -, hnone, -⟩
        exact hmark _ hnone
    | none =>
      rw [feedAll, feed]
      obtain ⟨hawait, hread⟩ | ⟨hunmarked, hread⟩ | ⟨e, hdec, hread⟩ := readMarked_cases horder
      · rw [hread]
        exact ih hawait
      · rw [hread]
        exact iff_of_true rfl ⟨[], List.nil_prefix, by simpa using hunmarked⟩
      · rw [hread]
        refine iff_of_false (fun h => by cases h) ?_
        rintro ⟨front, -, -, c, cs, left, hdec'⟩
        obtain ⟨hrests, hreads⟩ := Codec.decode_eq_ok_iff.mp hdec'
        exact Codec.not_reads_of_decode_eq_error (Codec.isSteady_utf16 _) hdec hreads hrests

/-- As long as the mark is awaited no character is kept. -/
theorem awaitMark_of_feed {d : Decoder} {piece kept : List UInt8} {cs : List Char}
    (h : d.feed false piece = .ok (cs, awaitingMark kept)) : AwaitMark kept := by
  obtain ⟨before, rfl, rfl⟩ := eq_awaitingMark_of_feed h
  rw [feed] at h
  cases horder : Utf16.orderOfMark? (before ++ piece) with
  | some order =>
    rw [readMarked_of_some horder] at h
    obtain ⟨left, -, hd⟩ := read_eq_ok_iff.mp h
    cases hd
  | none => exact ⟨horder, ((readMarked_eq_ok_iff horder).mp h).1⟩

theorem awaitMark_of_feedAll {d : Decoder} {pieces : List (List UInt8)} {kept : List UInt8}
    {cs : List Char} (hd : ∀ kept, d = awaitingMark kept → AwaitMark kept)
    (h : d.feedAll pieces = (cs, .ok (awaitingMark kept))) : AwaitMark kept := by
  induction pieces generalizing d cs with
  | nil =>
    cases h
    exact hd _ rfl
  | cons piece pieces ih =>
    rw [feedAll] at h
    split at h
    · cases h
    · rename_i cs₁ d₁ hfeed
      refine ih (fun kept' hd₁ => ?_) (Prod.ext rfl (Prod.mk.inj h).2)
      exact awaitMark_of_feed (hd₁ ▸ hfeed)

/-- At the end a part of a character is a fault of its own. -/
theorem AwaitMark.readMarked_ne_missingMark {kept : List UInt8} (h : AwaitMark kept) :
    readMarked true kept ≠ .error .missingMark := by
  rw [readMarked, h.1]
  cases hdec : (Codec.utf16 .littleEndian).decode true 0 kept with
  | error e => simp
  | ok p =>
    obtain ⟨cs, left⟩ := p
    obtain ⟨-, hreads⟩ := Codec.decode_eq_ok_iff.mp hdec
    obtain ⟨-, rfl⟩ := (Codec.reads_iff_of_rests h.2).mp hreads
    simp

end Decoder

end Text

end Vicinity
