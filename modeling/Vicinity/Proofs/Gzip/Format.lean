import Vicinity.NeighborFile
import Vicinity.Proofs.Bytes
import Vicinity.Proofs.Deflate.Format
import Vicinity.Proofs.Gzip.Step

/-!
# The format of compressed files

Members as a format, without a reader : a head with any of its fields, compressed data, and the
check and the length of the content (`Gzip.IsMember`). A file is made of members, with any number
of zero bytes after each (`Gzip.IsFile`). Every such file delivers the contents of its members, one
after the other (`Gzip.deliver_of_isFile`).
-/

namespace Vicinity

namespace Gzip

/-! ## Heads -/

/-- What a head says. The fields that may be missing are an extra field, the name of a file, a
comment, and a check of the head, which may be wrong. -/
structure Head where
  isText : Bool
  time : List UInt8
  level : UInt8
  system : UInt8
  extra : Option (List UInt8)
  name : Option (List UInt8)
  comment : Option (List UInt8)
  check : Option (List UInt8)
  length_time : time.length = 4
  length_extra : ∀ bytes ∈ extra, bytes.length < 0x10000
  zero_not_mem_name : ∀ bytes ∈ name, 0 ∉ bytes
  zero_not_mem_comment : ∀ bytes ∈ comment, 0 ∉ bytes
  length_check : ∀ bytes ∈ check, bytes.length = 2

/-- The bytes of a field, which is written if it is there. -/
def fieldBytes (write : List UInt8 → List UInt8) (field : Option (List UInt8)) : List UInt8 :=
  (field.map write).getD []

/-- A field that gives its length in two bytes. -/
def extraBytes (bytes : List UInt8) : List UInt8 := bytesOfNumber 2 bytes.length ++ bytes

/-- A field that a zero byte ends. -/
def textBytes (bytes : List UInt8) : List UInt8 := bytes ++ [0]

namespace Head

/-- The flags, each in one bit. -/
def flags (h : Head) : UInt8 :=
  (Deflate.ofBits
    [h.isText, h.check.isSome, h.extra.isSome, h.name.isSome, h.comment.isSome]).toUInt8

/-- The bytes of the fields that may be missing. -/
def fields (h : Head) : List UInt8 :=
  fieldBytes extraBytes h.extra ++ (fieldBytes textBytes h.name ++
    (fieldBytes textBytes h.comment ++ fieldBytes id h.check))

/-- The bytes of a head. -/
def bytes (h : Head) : List UInt8 :=
  0x1f :: 0x8b :: 8 :: h.flags :: (h.time ++ [h.level, h.system] ++ h.fields)

end Head

/-! ## Members -/

/-- The bytes are a member with the content. -/
def IsMember (content bytes : List UInt8) : Prop :=
  ∃ (head : Head) (data : List UInt8), Deflate.IsData content data ∧
    bytes = head.bytes ++ (data ++ (bytesOfNumber 4 (Checksum.crc32 content).toNat ++
      bytesOfNumber 4 content.length))

/-- The bytes are members with the contents, with any number of zero bytes after each. -/
inductive IsFile : List (List UInt8) → List UInt8 → Prop
  | nil : IsFile [] []
  | cons {content bytes rest : List UInt8} {contents : List (List UInt8)} (zeros : Nat) :
      IsMember content bytes → IsFile contents rest →
        IsFile (content :: contents) (bytes ++ (List.replicate zeros 0 ++ rest))

/-! ## Reading heads -/

theorem length_bytesOfNumber (n value : Nat) : (bytesOfNumber n value).length = n := by
  induction n generalizing value with
  | zero => rfl
  | succ n ih => rw [bytesOfNumber, List.length_cons, ih]

theorem littleEndian_bytesOfNumber (n value : Nat) :
    littleEndian (bytesOfNumber n value) = value % 256 ^ n := by
  induction n generalizing value with
  | zero => rw [Nat.pow_zero, Nat.mod_one]; rfl
  | succ n ih =>
    rw [bytesOfNumber, littleEndian, ih, toNat_toUInt8 (Nat.mod_lt _ (by decide)), Nat.pow_succ',
      Nat.mod_mul]

theorem skipExtra_append {bytes : List UInt8} (h : bytes.length < 0x10000) (rest : List UInt8) :
    skipExtra (extraBytes bytes ++ rest) = .ok rest := by
  have hlen := length_bytesOfNumber 2 bytes.length
  have hvalue : littleEndian (bytesOfNumber 2 bytes.length) = bytes.length :=
    (littleEndian_bytesOfNumber 2 _).trans (Nat.mod_eq_of_lt h)
  have htake : (bytesOfNumber 2 bytes.length ++ (bytes ++ rest)).take 2 =
      bytesOfNumber 2 bytes.length := List.take_left' hlen
  rw [extraBytes, List.append_assoc, skipExtra, htake, hvalue, skip_append hlen]
  exact skip_append rfl rest

/-- Each field is skipped as it is written, if it is there. -/
theorem skipIf_fieldBytes {there : Prop} [Decidable there] {step : Step}
    {write : List UInt8 → List UInt8} {field : Option (List UInt8)}
    (hthere : there ↔ field.isSome)
    (hstep : ∀ bytes ∈ field, ∀ rest, step (write bytes ++ rest) = .ok rest) (rest : List UInt8) :
    skipIf there step (fieldBytes write field ++ rest) = .ok rest := by
  cases field with
  | none =>
    rw [skipIf, if_neg (by simp [hthere])]
    rfl
  | some bytes =>
    rw [skipIf, if_pos (by simp [hthere])]
    exact hstep bytes rfl rest

theorem and_ofBits : ∀ isText check extra name comment : Bool,
    ((Deflate.ofBits [isText, check, extra, name, comment]).toUInt8 &&& 4 ≠ 0 ↔ extra) ∧
      ((Deflate.ofBits [isText, check, extra, name, comment]).toUInt8 &&& 8 ≠ 0 ↔ name) ∧
      ((Deflate.ofBits [isText, check, extra, name, comment]).toUInt8 &&& 16 ≠ 0 ↔ comment) ∧
      ((Deflate.ofBits [isText, check, extra, name, comment]).toUInt8 &&& 2 ≠ 0 ↔ check) := by
  decide

/-- The flags tell the fields that are there. -/
theorem Head.and_flags (h : Head) :
    (h.flags &&& 4 ≠ 0 ↔ h.extra.isSome) ∧ (h.flags &&& 8 ≠ 0 ↔ h.name.isSome) ∧
      (h.flags &&& 16 ≠ 0 ↔ h.comment.isSome) ∧ (h.flags &&& 2 ≠ 0 ↔ h.check.isSome) :=
  and_ofBits _ _ _ _ _

theorem passText_append {bytes : List UInt8} (h : 0 ∉ bytes) (rest : List UInt8) :
    passText (textBytes bytes ++ rest) = .ok rest := by
  rw [passText, textBytes, List.append_assoc, List.singleton_append, skipText_append h]

theorem skipFields_append (h : Head) (rest : List UInt8) :
    skipFields h.flags (h.fields ++ rest) = .ok rest := by
  obtain ⟨hextra, hname, hcomment, hcheck⟩ := h.and_flags
  have hextra := skipIf_fieldBytes hextra fun bytes hb => skipExtra_append (h.length_extra bytes hb)
  have hname :=
    skipIf_fieldBytes hname fun bytes hb => passText_append (h.zero_not_mem_name bytes hb)
  have hcomment :=
    skipIf_fieldBytes hcomment fun bytes hb => passText_append (h.zero_not_mem_comment bytes hb)
  have hcheck : ∀ rest, skipIf _ (skip 2) (fieldBytes id h.check ++ rest) = .ok rest :=
    skipIf_fieldBytes hcheck fun bytes hb => skip_append (h.length_check bytes hb)
  simp only [skipFields, Head.fields, List.append_assoc, hextra, hname, hcomment, hcheck,
    Bind.bind, Except.bind]

theorem skipHead_append (h : Head) (rest : List UInt8) :
    skipHead ((h.bytes ++ rest).drop 2) = .ok rest := by
  have hsix : (h.time ++ [h.level, h.system]).length = 6 := by
    rw [List.length_append, h.length_time]
    rfl
  have hdrop : (h.bytes ++ rest).drop 2 =
      8 :: h.flags :: (h.time ++ [h.level, h.system] ++ (h.fields ++ rest)) := by
    simp [Head.bytes]
  rw [hdrop, skipHead_cons, skip_append hsix]
  exact skipFields_append h rest

/-! ## Reading members -/

theorem checkTail_append (content rest : List UInt8) :
    checkTail content (bytesOfNumber 4 (Checksum.crc32 content).toNat ++
      (bytesOfNumber 4 content.length ++ rest)) = .ok rest := by
  have hcheck := length_bytesOfNumber 4 (Checksum.crc32 content).toNat
  have hlength := length_bytesOfNumber 4 content.length
  have hskip : skip 8 (bytesOfNumber 4 (Checksum.crc32 content).toNat ++
      (bytesOfNumber 4 content.length ++ rest)) = .ok rest := by
    rw [← List.append_assoc]
    exact skip_append (by rw [List.length_append, hcheck, hlength]) rest
  have hstored : littleEndian (bytesOfNumber 4 (Checksum.crc32 content).toNat) =
      (Checksum.crc32 content).toNat :=
    (littleEndian_bytesOfNumber 4 _).trans (Nat.mod_eq_of_lt (Checksum.crc32 content).toNat_lt)
  have hcrc : (Checksum.crc32 content).toNat.toUInt32 = Checksum.crc32 content :=
    UInt32.ofNat_toNat
  have hvalue : littleEndian (bytesOfNumber 4 content.length) = content.length % 0x100000000 :=
    littleEndian_bytesOfNumber 4 content.length
  simp only [checkTail, hskip, List.take_left' hcheck, List.drop_left' hcheck,
    List.take_left' hlength, hstored, hcrc, hvalue, Bind.bind, Except.bind, ne_eq,
    not_true_eq_false, if_false]
  rfl

theorem isCompressed_of_isMember {content bytes : List UInt8} (h : IsMember content bytes)
    (rest : List UInt8) : isCompressed (bytes ++ rest) = true := by
  obtain ⟨head, data, -, rfl⟩ := h
  rfl

/-- A member is read to its end. -/
theorem member_of_isMember [Platform] {content bytes : List UInt8} (h : IsMember content bytes)
    (rest : List UInt8) :
    member (bytes ++ rest) = (Platform.cut (bytes ++ rest) content, .ok rest) := by
  have hc := isCompressed_of_isMember h rest
  obtain ⟨head, data, hdata, rfl⟩ := h
  simp only [List.append_assoc] at hc ⊢
  rw [member_of_inflate hc (skipHead_append head _) (Deflate.inflate_of_isData hdata _),
    checkTail_append]

/-! ## Reading files -/

theorem dropWhile_replicate_zero (zeros : Nat) (bytes : List UInt8) :
    (List.replicate zeros 0 ++ bytes).dropWhile (· = 0) = bytes.dropWhile (· = 0) :=
  List.dropWhile_append_of_pos fun b hb => by simp [List.eq_of_mem_replicate hb]

/-- A file does not begin with a zero byte. -/
theorem dropWhile_of_isFile {contents : List (List UInt8)} {bytes : List UInt8}
    (h : IsFile contents bytes) : bytes.dropWhile (· = 0) = bytes := by
  cases h with
  | nil => rfl
  | cons zeros hmember _ =>
    obtain ⟨rest, hrest⟩ := isCompressed_iff.mp (isCompressed_of_isMember hmember _)
    rw [hrest]
    rfl

theorem members_of_isFile [Platform] {contents : List (List UInt8)} {bytes : List UInt8}
    (h : IsFile contents bytes) {todo : Nat} (htodo : bytes.length ≤ todo) :
    (members todo bytes).failure = none ∧ (members todo bytes).bytes = contents.flatten := by
  induction h generalizing todo with
  | nil =>
    rw [members_nil]
    exact ⟨rfl, rfl⟩
  | @cons content bytes rest contents zeros hmember hfile ih =>
    obtain ⟨hne, n, hn, -⟩ := deliver_of_isCompressed
      (isCompressed_of_isMember hmember (List.replicate zeros 0 ++ rest))
    obtain ⟨todo, rfl⟩ : ∃ k, todo = k + 1 := Nat.exists_eq_succ_of_ne_zero (by omega)
    have hle : rest.length ≤ todo := by
      have hpos : bytes ≠ [] := by
        rintro rfl
        exact absurd (isCompressed_of_isMember hmember []) Bool.false_ne_true
      have := List.length_pos_iff.mpr hpos
      rw [List.length_append, List.length_append] at htodo
      omega
    rw [members_of_ok hne (member_of_isMember hmember _), dropWhile_replicate_zero,
      dropWhile_of_isFile hfile]
    refine ⟨(ih hle).1, ?_⟩
    rw [Delivery.bytes, List.flatten_append, Platform.flatten_cut, List.flatten_cons]
    exact congrArg _ (ih hle).2

/-- A compressed file delivers the contents of its members, and nothing fails. -/
theorem deliver_of_isFile [Platform] {contents : List (List UInt8)} {bytes : List UInt8}
    (h : IsFile contents bytes) (hne : contents ≠ []) :
    (deliver bytes).failure = none ∧ (deliver bytes).bytes = contents.flatten := by
  have hc : isCompressed bytes = true := by
    cases h with
    | nil => exact absurd rfl hne
    | cons zeros hmember _ => exact isCompressed_of_isMember hmember _
  rw [deliver, if_pos hc]
  exact members_of_isFile h (Nat.le_refl _)

end Gzip

end Vicinity
