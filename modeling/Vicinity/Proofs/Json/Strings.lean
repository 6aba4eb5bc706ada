import Vicinity.Json.Reader
import Vicinity.Json.Writer
import Vicinity.Proofs.Text.Numeral

/-!
# Strings in JSON

A string that is written is read again (`Json.readString_string`). Each of its characters is
written as one part or as two, which the reader takes back one by one (`readParts_escaped`) : the
character itself, or its UTF-16 units. Two units are written for the characters that need them and
for no others, so joining pairs of units undoes it (`joinParts_flatMap`).
-/

namespace Vicinity

namespace Json

open Text

/-! ## Parts of a character -/

/-- The parts that a character is written as. -/
def partsOf (c : Char) : List Part :=
  if c ∈ ['"', '\\', '\n', '\r', '\t', '\x08', '\x0c'] ∨ ' ' ≤ c ∧ c ≤ '~' then [.char c]
  else if c.toNat < 0x10000 then [.unit c.toNat]
  else [.unit (0xd800 + (c.toNat - 0x10000) / 0x400), .unit (0xdc00 + (c.toNat - 0x10000) % 0x400)]

/-- The numbers of characters leave out the units of pairs. -/
theorem isValid (c : Char) :
    c.toNat < 0xd800 ∨ 0xdfff < c.toNat ∧ c.toNat < 0x110000 := c.valid

theorem readParts_unitEscape {n : Nat} (h : n < 0x10000) (rest : List Char) :
    readParts (unitEscape n ++ rest) =
      (readParts rest).map fun read => (.unit n :: read.1, read.2) := by
  have hlength := length_hexadecimal 4 (by omega) h
  have hvalue := ofHexadecimal?_hexadecimal 4 n
  match hdigits : hexadecimal 4 n with
  | [a, b, c, d] =>
    rw [hdigits] at hvalue
    rw [unitEscape, hdigits]
    simp only [List.cons_append, List.nil_append, readParts, hvalue, Option.bind_eq_bind,
      Option.bind_some, Option.pure_def]
    cases readParts rest <;> rfl
  | [] | [_] | [_, _] | [_, _, _] | _ :: _ :: _ :: _ :: _ :: _ => simp [hdigits] at hlength

/-- A character that stands for itself is read as it is. -/
theorem readParts_cons {c : Char} (hquote : c ≠ '"') (hslash : c ≠ '\\') (hblank : ' ' ≤ c)
    (rest : List Char) :
    readParts (c :: rest) = (readParts rest).map fun read => (.char c :: read.1, read.2) := by
  have hplain : ¬ (c < ' ' ∨ c = '\\') := by simp [hslash, hblank]
  rw [readParts.eq_def]
  split
  all_goals rename_i heq
  case h_1 => cases heq
  case h_2 => exact absurd (List.cons.inj heq).1 hquote
  case h_3 => exact absurd (List.cons.inj heq).1 hslash
  case h_4 => exact absurd (List.cons.inj heq).1 hslash
  case h_5 =>
    obtain ⟨rfl, rfl⟩ := List.cons.inj heq
    rw [if_neg hplain]
    cases readParts rest <;> rfl

/-- A character with a letter of its own is read from it. -/
theorem readParts_letter {letter c : Char} (hu : letter ≠ 'u') (h : escapeChar? letter = some c)
    (rest : List Char) :
    readParts ('\\' :: letter :: rest) =
      (readParts rest).map fun read => (.char c :: read.1, read.2) := by
  rw [readParts.eq_def]
  split
  all_goals rename_i heq
  case h_1 => cases heq
  case h_2 => cases heq
  case h_3 => exact absurd (List.cons.inj (List.cons.inj heq).2).1 hu
  case h_4 =>
    obtain ⟨rfl, rfl⟩ := List.cons.inj (List.cons.inj heq).2
    rw [h]
    cases readParts rest <;> rfl
  case h_5 hslash =>
    obtain ⟨rfl, rfl⟩ := List.cons.inj heq
    exact absurd rfl (hslash letter rest rfl)

/-- What a character is written as is read as its parts. -/
theorem readParts_escaped (c : Char) (rest : List Char) :
    readParts (escaped c ++ rest) =
      (readParts rest).map fun read => (partsOf c ++ read.1, read.2) := by
  by_cases hletter : c ∈ ['"', '\\', '\n', '\r', '\t', '\x08', '\x0c']
  · have hparts : partsOf c = [.char c] := if_pos (.inl hletter)
    rw [hparts]
    simp only [List.mem_cons, List.not_mem_nil, or_false] at hletter
    obtain rfl | rfl | rfl | rfl | rfl | rfl | rfl := hletter <;>
      exact readParts_letter (by decide) (by decide) rest
  · simp only [List.mem_cons, List.not_mem_nil, or_false, not_or] at hletter
    obtain ⟨hquote, hslash, hfeed, hreturn, htab, hback, hform⟩ := hletter
    have hescaped : escaped c = if c < ' ' then unitEscape c.toNat else if c ≤ '~' then [c]
        else if c.toNat < 0x10000 then unitEscape c.toNat
        else unitEscape (0xd800 + (c.toNat - 0x10000) / 0x400) ++
          unitEscape (0xdc00 + (c.toNat - 0x10000) % 0x400) := by
      rw [escaped, if_neg hquote, if_neg hslash, if_neg hfeed, if_neg hreturn, if_neg htab,
        if_neg hback, if_neg hform]
    have hparts : partsOf c = if ' ' ≤ c ∧ c ≤ '~' then [.char c]
        else if c.toNat < 0x10000 then [.unit c.toNat]
        else [.unit (0xd800 + (c.toNat - 0x10000) / 0x400),
          .unit (0xdc00 + (c.toNat - 0x10000) % 0x400)] := by
      simp [partsOf, hquote, hslash, hfeed, hreturn, htab, hback, hform]
    rw [hescaped, hparts]
    by_cases hlow : c < ' '
    · have hsmall : c.toNat < 0x10000 := Nat.lt_trans (Char.lt_def.mp hlow) (by decide)
      rw [if_pos hlow, if_neg fun h => absurd hlow (Char.not_lt.mpr h.1), if_pos hsmall]
      exact readParts_unitEscape hsmall rest
    rw [if_neg hlow]
    by_cases hplain : c ≤ '~'
    · rw [if_pos hplain, if_pos ⟨Char.not_lt.mp hlow, hplain⟩]
      exact readParts_cons hquote hslash (Char.not_lt.mp hlow) rest
    rw [if_neg hplain, if_neg fun h : ' ' ≤ c ∧ c ≤ '~' => hplain h.2]
    by_cases hsmall : c.toNat < 0x10000
    · rw [if_pos hsmall, if_pos hsmall]
      exact readParts_unitEscape hsmall rest
    · have hvalid := isValid c
      rw [if_neg hsmall, if_neg hsmall, List.append_assoc, readParts_unitEscape (by omega),
        readParts_unitEscape (by omega), Option.map_map]
      rfl

/-- What a text is written as is read as the parts of its characters, up to the closing quote. -/
theorem readParts_flatMap (cs rest : List Char) :
    readParts (cs.flatMap escaped ++ '"' :: rest) = some (cs.flatMap partsOf, rest) := by
  induction cs with
  | nil => rfl
  | cons c cs ih =>
    rw [List.flatMap_cons, List.append_assoc, readParts_escaped, ih]
    rfl

/-! ## Joining -/

/-- A unit that belongs to no pair is a character. -/
theorem joinParts_unit {n : Nat} (h : ¬ (0xd800 ≤ n ∧ n < 0xe000)) (parts : List Part) :
    joinParts (.unit n :: parts) = Char.ofNat n :: joinParts parts := by
  have hchar : unitChar n = Char.ofNat n := if_neg h
  match parts with
  | [] => simp [joinParts, hchar]
  | .char c :: parts => simp [joinParts, hchar]
  | .unit lo :: parts =>
    have hpair : pairChar? n lo = none := if_neg (by omega)
    rw [joinParts, hpair, hchar]

/-- The parts of a character are joined to it. -/
theorem joinParts_partsOf (c : Char) (parts : List Part) :
    joinParts (partsOf c ++ parts) = c :: joinParts parts := by
  rw [partsOf]
  split
  · rfl
  have hvalid := isValid c
  split
  · rw [List.singleton_append, joinParts_unit (by omega), Char.ofNat_toNat]
  · have hpair : pairChar? (0xd800 + (c.toNat - 0x10000) / 0x400)
        (0xdc00 + (c.toNat - 0x10000) % 0x400) = some c := by
      have hn : 0x10000 + (0xd800 + (c.toNat - 0x10000) / 0x400 - 0xd800) * 0x400 +
          (0xdc00 + (c.toNat - 0x10000) % 0x400 - 0xdc00) = c.toNat := by omega
      rw [pairChar?, if_pos (by omega), hn, Char.ofNat_toNat]
    rw [List.cons_append, List.singleton_append, joinParts, hpair]

/-- A string that is written is read again. -/
theorem readString_string (s : String) (rest : List Char) :
    readString (s.toList.flatMap escaped ++ '"' :: rest) = some (s, rest) := by
  have hjoin (cs : List Char) : joinParts (cs.flatMap partsOf) = cs := by
    induction cs with
    | nil => rfl
    | cons c cs ih => rw [List.flatMap_cons, joinParts_partsOf, ih]
  simp only [readString, readParts_flatMap, Option.map_some, hjoin, String.ofList_toList]

end Json

end Vicinity
