import Vicinity.Proofs.Gzip.Format

/-!
# Files that are damaged at their end

A member whose data are right delivers all of its content, even if its tail does not match the
content (`Gzip.deliver_of_not_isTail`), and even if what follows it is no member and no zero bytes
(`Gzip.deliver_of_followed`). `Gzip.HasTail` splits a file behind the data of its first member, of
whatever kind their blocks are, and `Gzip.IsTail` is what should come there.
-/

namespace Vicinity

namespace Gzip

/-! ## Tails -/

/-- The bytes begin with the head of a member and the data of the content, and then comes the
tail. -/
def HasTail (content tail bytes : List UInt8) : Prop :=
  isCompressed bytes = true ∧
    ∃ data, skipHead (bytes.drop 2) = .ok data ∧ Deflate.inflate data = ⟨content, .ok tail⟩

/-- The check and the length of the content, each in four bytes, before anything else. -/
structure IsTail (content tail : List UInt8) : Prop where
  le_length : 8 ≤ tail.length
  check_eq : littleEndian (tail.take 4) = (Checksum.crc32 content).toNat
  length_eq : littleEndian ((tail.drop 4).take 4) = content.length % 0x100000000

theorem littleEndian_lt (bytes : List UInt8) : littleEndian bytes < 256 ^ bytes.length := by
  induction bytes with
  | nil => decide
  | cons b rest ih =>
    have hb := b.toNat_lt
    rw [littleEndian, List.length_cons, Nat.pow_succ]
    omega

theorem toUInt32_eq_iff {n : Nat} (h : n < 0x100000000) (u : UInt32) :
    n.toUInt32 = u ↔ n = u.toNat := by
  rw [← UInt32.toNat_inj]
  change n % 0x100000000 = u.toNat ↔ _
  rw [Nat.mod_eq_of_lt h]

/-- A tail is accepted if and only if it is right. -/
theorem checkTail_eq_ok_iff {content tail rest : List UInt8} :
    checkTail content tail = .ok rest ↔ IsTail content tail ∧ rest = tail.drop 8 := by
  have hlt : littleEndian (tail.take 4) < 0x100000000 := by
    have hle : (tail.take 4).length ≤ 4 := List.length_take_le 4 tail
    exact Nat.lt_of_lt_of_le (littleEndian_lt _) (Nat.pow_le_pow_right (by decide) hle)
  constructor
  · intro h
    obtain ⟨hlen, rfl⟩ := eq_drop_of_checkTail h
    have hskip : skip 8 tail = .ok (tail.drop 8) := if_pos hlen
    rw [checkTail, hskip] at h
    simp only [Bind.bind, Except.bind] at h
    split at h
    · cases h
    · rename_i hcheck
      split at h
      · cases h
      · rename_i hlength
        have hcheck := (toUInt32_eq_iff hlt _).mp (Decidable.not_not.mp hcheck)
        exact ⟨⟨hlen, hcheck, Decidable.not_not.mp hlength⟩, rfl⟩
  · rintro ⟨⟨hlen, hcheck, hlength⟩, rfl⟩
    have hskip : skip 8 tail = .ok (tail.drop 8) := if_pos hlen
    have hcheck : (littleEndian (tail.take 4)).toUInt32 = Checksum.crc32 content :=
      (toUInt32_eq_iff hlt _).mpr hcheck
    simp only [checkTail, hskip, hcheck, hlength, Bind.bind, Except.bind, ne_eq,
      not_true_eq_false, if_false]
    rfl

/-! ## Files -/

section

variable {content tail bytes : List UInt8}

theorem member_of_hasTail [Platform] (h : HasTail content tail bytes) :
    member bytes = (Platform.cut bytes content, checkTail content tail) := by
  obtain ⟨hc, data, hhead, hinflate⟩ := h
  exact member_of_inflate hc hhead hinflate

theorem hasTail_of_isData (head : Head) {data : List UInt8} (h : Deflate.IsData content data) :
    HasTail content tail (head.bytes ++ (data ++ tail)) :=
  ⟨rfl, _, skipHead_append head _, Deflate.inflate_of_isData h tail⟩

/-- A member with a tail that is not right delivers its content, and fails. -/
theorem deliver_of_not_isTail [Platform] (h : HasTail content tail bytes)
    (htail : ¬ IsTail content tail) :
    ∃ e, deliver bytes = ⟨Platform.cut bytes content, some e⟩ := by
  have hmember := member_of_hasTail h
  obtain ⟨hne, todo, -, hdeliver⟩ := deliver_of_isCompressed h.1
  cases hcheck : checkTail content tail with
  | ok rest => exact absurd (checkTail_eq_ok_iff.mp hcheck).1 htail
  | error e =>
    rw [hcheck] at hmember
    exact ⟨e, by rw [hdeliver, members_of_error hne hmember]⟩

/-- A member that is followed, after any zero bytes, by bytes that do not begin another one
delivers its content, and fails. -/
theorem deliver_of_followed [Platform] {junk : List UInt8} (h : HasTail content tail bytes)
    (htail : IsTail content tail) (hjunk : (tail.drop 8).dropWhile (· = 0) = junk)
    (hne : junk ≠ []) (hplain : isCompressed junk = false) :
    deliver bytes = ⟨Platform.cut bytes content, some (.notCompressed (junk.take 2))⟩ := by
  have hmember := member_of_hasTail h
  rw [checkTail_eq_ok_iff.mpr ⟨htail, rfl⟩] at hmember
  have hjunkMember : member junk = ([], .error (.notCompressed (junk.take 2))) := by
    simp only [member, hplain, Bool.not_false, if_true]
  obtain ⟨hbytes, todo, hlen, hdeliver⟩ := deliver_of_isCompressed h.1
  -- there are two bytes at least, so that the second round is reached
  obtain ⟨todo, rfl⟩ : ∃ n, todo = n + 1 := by
    obtain ⟨rest, rfl⟩ := isCompressed_iff.mp h.1
    exact ⟨rest.length, by simpa using hlen.symm⟩
  rw [hdeliver, members_of_ok hbytes hmember, hjunk, members_of_error hne hjunkMember,
    List.append_nil]

end

end Gzip

end Vicinity
