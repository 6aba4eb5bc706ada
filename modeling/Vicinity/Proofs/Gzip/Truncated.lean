import Vicinity.Proofs.Bytes
import Vicinity.Proofs.Deflate.Continues
import Vicinity.Proofs.Gzip.Step

/-!
# Members that break off

`BreaksOff` says what is left of some bytes if the rest is cut away. A step through a head
notices the cut, or leaves bytes that break off (`NoticesCut`); with what inflating does to data
that breaks off, a member that was whole is truncated and nothing else, wherever it is cut
(`member_of_isPrefix`), and what it delivers before are the first bytes of its content.
-/

namespace Vicinity

namespace Gzip

/-! ## Breaking off -/

/-- Nothing, or the beginning of some bytes that lacks something at their end. -/
def BreaksOff (front whole : List UInt8) : Prop :=
  front = [] ∨ ∃ later, later ≠ [] ∧ whole = front ++ later

theorem breaksOff_of_isPrefix {front whole : List UInt8} (h : front <+: whole)
    (hne : front ≠ whole) : BreaksOff front whole := by
  obtain ⟨later, rfl⟩ := h
  refine Or.inr ⟨later, ?_, rfl⟩
  rintro rfl
  exact hne (List.append_nil front).symm

theorem breaksOff_append (front : List UInt8) {later : List UInt8} (h : later ≠ []) :
    BreaksOff front (front ++ later) := Or.inr ⟨later, h, rfl⟩

/-- Bytes that break off are found to be truncated, or are left breaking off. -/
def NoticesCut (step : Step) : Prop :=
  ∀ ⦃front whole rest⦄, BreaksOff front whole → step whole = .ok rest →
    step front = .error .truncated ∨ ∃ rest', step front = .ok rest' ∧ BreaksOff rest' rest

/-! ## Heads -/

theorem noticesCut_skip (n : Nat) : NoticesCut (skip n) := by
  intro front whole rest h hw
  rcases Nat.lt_or_ge front.length n with hlt | hge
  · exact Or.inl (skip_of_lt hlt)
  · right
    refine ⟨front.drop n, if_pos hge, ?_⟩
    rcases h with rfl | ⟨later, hlater, rfl⟩
    · rw [List.drop_nil]
      exact Or.inl rfl
    · rw [skip, if_pos (by rw [List.length_append]; omega),
        List.drop_append_of_le_length hge] at hw
      cases hw
      exact breaksOff_append _ hlater

theorem noticesCut_passText : NoticesCut passText := by
  intro front whole rest h hw
  cases hw
  right
  refine ⟨_, rfl, ?_⟩
  rcases h with rfl | ⟨later, hlater, rfl⟩
  · exact Or.inl rfl
  · by_cases hzero : 0 ∈ front
    · obtain ⟨text, rest, rfl, htext⟩ := List.eq_append_cons_of_mem hzero
      rw [List.append_assoc, List.cons_append, skipText_append htext, skipText_append htext]
      exact breaksOff_append _ hlater
    · rw [skipText_of_not_mem hzero]
      exact Or.inl rfl

theorem NoticesCut.bind {step step' : Step} (h : NoticesCut step) (h' : NoticesCut step') :
    NoticesCut fun bytes => step bytes >>= step' := by
  intro front whole rest hbreak hw
  cases hmid : step whole with
  | error e =>
    simp only [hmid, Bind.bind, Except.bind] at hw
    cases hw
  | ok mid =>
    simp only [hmid, Bind.bind, Except.bind] at hw
    rcases h hbreak hmid with hfront | ⟨mid', hfront, hbreak'⟩
    · simp only [hfront, Bind.bind, Except.bind, true_or]
    · simp only [hfront, Bind.bind, Except.bind]
      exact h' hbreak' hw

/-- The two bytes that give the length of the field are there, or the cut is noticed. -/
theorem noticesCut_skipExtra : NoticesCut skipExtra := by
  intro front whole rest h hw
  rcases Nat.lt_or_ge front.length 2 with hlt | hge
  · left
    rw [skipExtra, skip_of_lt hlt]
    rfl
  · have htake : whole.take 2 = front.take 2 := by
      rcases h with rfl | ⟨later, -, rfl⟩
      · cases hge
      · exact List.take_append_of_le_length hge
    rw [skipExtra, htake] at hw
    exact ((noticesCut_skip 2).bind (noticesCut_skip _)) h hw

theorem noticesCut_skipIf {there : Prop} [Decidable there] {step : Step} (h : NoticesCut step) :
    NoticesCut (skipIf there step) := by
  rw [skipIf]
  split
  · exact h
  · intro front whole rest hbreak hw
    cases hw
    exact Or.inr ⟨front, rfl, hbreak⟩

theorem noticesCut_skipFields (flags : UInt8) : NoticesCut (skipFields flags) :=
  (noticesCut_skipIf noticesCut_skipExtra).bind <| (noticesCut_skipIf noticesCut_passText).bind <|
    (noticesCut_skipIf noticesCut_passText).bind <| noticesCut_skipIf (noticesCut_skip 2)

theorem noticesCut_skipHead : NoticesCut skipHead := by
  intro front whole rest h hw
  match front with
  | [] => exact Or.inl rfl
  | [method] => exact Or.inl rfl
  | method :: flags :: front =>
    rcases h with h | ⟨later, hlater, rfl⟩
    · cases h
    rw [List.cons_append, List.cons_append, skipHead_cons] at hw
    rw [skipHead_cons]
    by_cases hmethod : method = 8
    · simp only [hmethod, ne_eq, not_true_eq_false, if_false] at hw ⊢
      exact ((noticesCut_skip 6).bind (noticesCut_skipFields flags))
        (breaksOff_append front hlater) hw
    · cases hskip : skip 6 (front ++ later) with
      | error e =>
        rw [hskip] at hw
        cases hw
      | ok mid =>
        rw [hskip] at hw
        simp [hmethod, Bind.bind, Except.bind] at hw

/-! ## Members -/

/-- Data that breaks off is truncated, within itself or in the tail after it. -/
theorem inflate_of_breaksOff {data front content tail : List UInt8}
    (h : Deflate.inflate data = ⟨content, .ok tail⟩) (hbreak : BreaksOff front data) :
    (∃ made, Deflate.inflate front = ⟨made, .error .starved⟩ ∧ made <+: content) ∨
      ∃ tail', Deflate.inflate front = ⟨content, .ok tail'⟩ ∧ tail'.length < tail.length := by
  rcases hbreak with rfl | ⟨later, hlater, rfl⟩
  · exact Or.inl ⟨[], rfl, List.nil_prefix⟩
  · rcases Deflate.inflate_continues h with ⟨tail', hfront, rfl⟩ | hstarved
    · right
      refine ⟨tail', hfront, ?_⟩
      have hpos := List.length_pos_iff.mpr hlater
      rw [List.length_append]
      omega
    · exact Or.inl hstarved

/-- A member that is all there is, cut anywhere after the two bytes that tell it, is truncated,
and delivers the first of its bytes. -/
theorem member_of_isPrefix [Platform] {whole front : List UInt8} {pieces : List (List UInt8)}
    (h : member whole = (pieces, .ok [])) (hpre : front <+: whole) (hne : front ≠ whole)
    (hlen : 2 ≤ front.length) :
    isCompressed front = true ∧ ∃ pieces', member front = (pieces', .error .truncated) ∧
      pieces'.flatten <+: pieces.flatten := by
  obtain ⟨data, content, tail, hc, hh, hi, rfl, htail⟩ := exists_of_member_ok h
  obtain ⟨rest, rfl⟩ := isCompressed_iff.mp hc
  match front, hlen with
  | b :: b' :: front, _ =>
    simp only [List.cons_prefix_cons] at hpre
    obtain ⟨rfl, rfl, hpre⟩ := hpre
    have hbreak : BreaksOff front rest := breaksOff_of_isPrefix hpre fun heq => hne (by rw [heq])
    have hc' : isCompressed (0x1f :: 0x8b :: front) = true := rfl
    refine ⟨hc', ?_⟩
    rcases noticesCut_skipHead hbreak hh with hfront | ⟨data', hfront, hbreak'⟩
    · exact ⟨[], member_of_head hc' hfront, List.nil_prefix⟩
    · rcases inflate_of_breaksOff hi hbreak' with ⟨made, hmade, hprefix⟩ | ⟨tail', hmade, hlt⟩
      · refine ⟨_, member_of_starved hc' hfront hmade, ?_⟩
        rw [Platform.flatten_cut, Platform.flatten_cut]
        exact hprefix
      · -- the whole tail has eight bytes, since nothing follows it
        obtain ⟨hle, hdrop⟩ := eq_drop_of_checkTail htail
        have height : tail.length ≤ 8 := List.drop_eq_nil_iff.mp hdrop.symm
        have hmember : member (0x1f :: 0x8b :: front) = _ := member_of_inflate hc' hfront hmade
        rw [checkTail_of_lt (by omega)] at hmember
        exact ⟨_, hmember, by simp only [Platform.flatten_cut, List.prefix_rfl]⟩

/-! ## Files -/

/-- A file of one member that is cut delivers the first bytes of its content, and is truncated. -/
theorem deliver_of_isPrefix [Platform] {whole front : List UInt8} {pieces : List (List UInt8)}
    (h : member whole = (pieces, .ok [])) (hpre : front <+: whole) (hne : front ≠ whole)
    (hlen : 2 ≤ front.length) :
    (deliver front).failure = some .truncated ∧ (deliver front).bytes <+: pieces.flatten := by
  obtain ⟨hc, pieces', hfront, hprefix⟩ := member_of_isPrefix h hpre hne hlen
  obtain ⟨hnil, todo, -, hdeliver⟩ := deliver_of_isCompressed hc
  rw [hdeliver, members_of_error hnil hfront]
  exact ⟨rfl, hprefix⟩

/-- A file of one member delivers its content. -/
theorem deliver_of_member [Platform] {whole : List UInt8} {pieces : List (List UInt8)}
    (h : member whole = (pieces, .ok [])) : deliver whole = ⟨pieces, none⟩ := by
  obtain ⟨data, content, tail, hc, -, -, -, -⟩ := exists_of_member_ok h
  obtain ⟨hnil, todo, -, hdeliver⟩ := deliver_of_isCompressed hc
  rw [hdeliver, members_of_ok hnil h, List.dropWhile_nil, members_nil, List.append_nil]

end Gzip

end Vicinity
