import Mathlib.Algebra.GroupWithZero.Nat
import Mathlib.Data.List.DropRight
import Vicinity.Proofs.Text.Tokens
import Vicinity.Text.Hexadecimal

/-!
# Digits

The decimal digits of a whole number are a numeral (`Text.IsNumeral`) : they do not begin with a
zero unless there is nothing else. Their value is the number (`Nat.ofDigitChars_ten_toDigits`),
and zeros at the end multiply it by powers of ten (`Text.ofDigitChars_append_replicate`).

Hexadecimal digits have zeros before them up to a width, and say the number
(`Text.ofHexadecimal?_hexadecimal`).
-/

namespace Vicinity

namespace Text

/-! ## Decimal digits -/

/-- Whether characters are decimal digits, the first of which is no zero, or a single zero. -/
structure IsNumeral (digits : List Char) : Prop where
  ne_nil : digits ≠ []
  isDigit : ∀ c ∈ digits, c.isDigit
  eq_zero : digits.head? = some '0' → digits = ['0']

theorem head?_toDigits {n : Nat} (h : n ≠ 0) : (Nat.toDigits 10 n).head? ≠ some '0' := by
  induction n using Nat.strong_induction_on with
  | h n ih =>
    by_cases hn : n < 10
    · rw [Nat.toDigits_of_lt_base hn]
      simpa using h
    · rw [Nat.toDigits_of_base_le (by omega) (not_lt.mp hn),
        List.head?_append_of_ne_nil _ Nat.toDigits_ne_nil]
      exact ih (n / 10) (by omega) (by omega)

theorem isNumeral_toDigits (n : Nat) : IsNumeral (Nat.toDigits 10 n) where
  ne_nil := Nat.toDigits_ne_nil
  isDigit := fun _ hc => Nat.isDigit_of_mem_toDigits (by omega) (by omega) hc
  eq_zero := fun h => by
    by_cases hn : n = 0
    · rw [hn, Nat.toDigits_zero]
    · exact absurd h (head?_toDigits hn)

/-- Zeros at the end multiply the value by a power of ten. -/
theorem ofDigitChars_append_replicate (digits : List Char) (n : Nat) :
    Nat.ofDigitChars 10 (digits ++ List.replicate n '0') 0 =
      Nat.ofDigitChars 10 digits 0 * 10 ^ n := by
  rw [Nat.ofDigitChars_append, Nat.ofDigitChars_replicate_zero, Nat.mul_comm]

/-- What is taken off the end of a list satisfies the predicate. -/
theorem exists_dropEnd_append {α : Type} (p : α → Bool) (items : List α) :
    ∃ ends, items = dropEnd p items ++ ends ∧ ∀ a ∈ ends, p a := by
  refine ⟨(items.reverse.takeWhile p).reverse, ?_, fun a ha => ?_⟩
  · rw [dropEnd, ← List.reverse_append, List.takeWhile_append_dropWhile, List.reverse_reverse]
  · exact List.mem_takeWhile_imp (List.mem_reverse.mp ha)

/-! ## Hexadecimal digits -/

theorem digitValue?_digitChar {n : Nat} (h : n < 16) : digitValue? n.digitChar = some n := by
  have hall : ∀ n < 16, digitValue? n.digitChar = some n := by decide
  exact hall n h

theorem ofHexadecimal?_toDigits (n : Nat) : ofHexadecimal? (Nat.toDigits 16 n) = some n := by
  induction n using Nat.strong_induction_on with
  | h n ih =>
    by_cases hn : n < 16
    · rw [Nat.toDigits_of_lt_base hn]
      simp [ofHexadecimal?, digitValue?_digitChar hn]
    · have hdigit := digitValue?_digitChar (Nat.mod_lt n (by omega : 0 < 16))
      have hfront := ih (n / 16) (by omega)
      rw [ofHexadecimal?] at hfront
      rw [Nat.toDigits_of_base_le (by omega) (not_lt.mp hn), ofHexadecimal?, List.foldlM_append,
        hfront]
      simp [hdigit, Nat.div_add_mod]

/-- Hexadecimal digits say the number. -/
theorem ofHexadecimal?_hexadecimal (width n : Nat) :
    ofHexadecimal? (hexadecimal width n) = some n := by
  have hzeros (k : Nat) : ofHexadecimal? (List.replicate k '0') = some 0 := by
    induction k with
    | zero => rfl
    | succ k ih => exact ih
  have hfront := hzeros (width - (Nat.toDigits 16 n).length)
  rw [ofHexadecimal?] at hfront
  rw [hexadecimal, ofHexadecimal?, List.foldlM_append, hfront]
  exact ofHexadecimal?_toDigits n

theorem length_hexadecimal {n : Nat} (width : Nat) (hwidth : 0 < width) (h : n < 16 ^ width) :
    (hexadecimal width n).length = width := by
  have hle := (Nat.length_toDigits_le_iff (by omega) hwidth).mpr h
  rw [hexadecimal, List.length_append, List.length_replicate]
  omega

end Text

end Vicinity
