import Vicinity.Binary64.Text
import Vicinity.Proofs.Binary64.Rounding
import Vicinity.Proofs.Text.Numeral

/-!
# The decimal of a number

A number is written as a decimal that reads back as the number (`Finite.readsBack_shortest`) : if
no shorter one does then the decimal of all its digits (`Finite.readsBack_exact`). The digits that
are written leave out the zeros at the end of the mantissa, and with the place of the point they
still say the value of the decimal (`Decimal.ofScientific_digits`).
-/

namespace Vicinity

namespace Binary64

open Text

/-! ## Decimals that read back -/

namespace Finite

/-- All digits of a number read back as the number. -/
theorem readsBack_exact (x : Finite) : x.readsBack x.exact := by
  have hround : ofScientific x.negative x.exact.mantissa x.exact.exponent =
      ofRatio x.negative x.ratio.1 x.ratio.2 := by
    rw [ofScientific_eq_ofRatio, exact, ratio]
    split
    · simp
    · rename_i hexp
      obtain ⟨e, he⟩ : ∃ e : ℕ, x.exponent = -e := ⟨x.exponent.natAbs, by omega⟩
      refine ofRatio_eq_of_ratio x.negative (Nat.pow_pos (by omega)).ne'
        (Nat.pow_pos Nat.two_pos).ne' ?_
      have hten : 10 ^ e = 2 ^ e * 5 ^ e := Nat.mul_pow 2 5 e
      have hzero : (-(e : Int)).toNat = 0 := by omega
      simp only [he, Int.natAbs_neg, Int.natAbs_natCast, Int.neg_neg, Int.toNat_natCast, Nat.pow_eq,
        hten, hzero, Nat.pow_zero, Nat.mul_one]
      rw [Nat.mul_assoc, Nat.mul_comm (5 ^ e)]
  rw [readsBack, hround, ofRatio_ratio]
  exact beq_self_eq_true _

/-- The decimal that a number is written as reads back as the number. -/
theorem readsBack_shortest (x : Finite) : x.readsBack x.shortest := by
  rw [shortest]
  cases h : List.find? x.readsBack _ with
  | none => exact x.readsBack_exact
  | some d => exact List.find?_some h

end Finite

/-! ## Digits of decimals -/

namespace Decimal

theorem digits_of_eq_zero {d : Decimal} (h : d.mantissa = 0) : d.digits = ['0'] := by
  rw [digits, h]
  rfl

/-- The digits are those of the mantissa up to zeros at its end. -/
theorem exists_toDigits_eq {d : Decimal} (h : d.mantissa ≠ 0) :
    ∃ n, Nat.toDigits 10 d.mantissa = d.digits ++ List.replicate n '0' := by
  obtain ⟨ends, hends, hzeros⟩ :=
    exists_dropEnd_append (fun c : Char => decide (c = '0')) (Nat.toDigits 10 d.mantissa)
  have hreplicate : ends = List.replicate ends.length '0' :=
    List.eq_replicate_of_mem fun c hc => of_decide_eq_true (hzeros c hc)
  refine ⟨ends.length, ?_⟩
  rw [digits]
  split
  · -- a mantissa of zeros alone is zero
    rename_i hnil
    rw [hnil, List.nil_append, hreplicate] at hends
    have hvalue := congrArg (fun digits => Nat.ofDigitChars 10 digits 0) hends
    simp only [Nat.ofDigitChars_ten_toDigits, Nat.ofDigitChars_replicate_zero, Nat.mul_zero]
      at hvalue
    exact absurd hvalue h
  · rw [← hreplicate]
    exact hends

theorem isNumeral_digits (d : Decimal) : IsNumeral d.digits := by
  by_cases h : d.mantissa = 0
  · rw [digits_of_eq_zero h]
    exact isNumeral_toDigits 0
  · obtain ⟨n, hn⟩ := exists_toDigits_eq h
    have hne : d.digits ≠ [] := by
      rw [digits]
      split
      · simp
      · assumption
    have hhead := head?_toDigits h
    rw [hn, List.head?_append_of_ne_nil _ hne] at hhead
    refine ⟨hne, fun c hc => ?_, fun h0 => absurd h0 hhead⟩
    exact (isNumeral_toDigits d.mantissa).isDigit c (hn ▸ List.mem_append_left _ hc)

/-- Digits that begin with a zero are a zero before the point. -/
theorem point_of_head?_eq_zero {d : Decimal} (h : d.digits.head? = some '0') : d.point = 1 := by
  by_cases hzero : d.mantissa = 0
  · rw [point, if_pos hzero]
  · obtain ⟨n, hn⟩ := exists_toDigits_eq hzero
    have hhead := head?_toDigits hzero
    rw [hn, List.head?_append_of_ne_nil _ d.isNumeral_digits.ne_nil] at hhead
    exact absurd h hhead

/-- The digits and the place of the point say the value of a decimal. -/
theorem ofScientific_digits (negative : Bool) (d : Decimal) :
    ofScientific negative (Nat.ofDigitChars 10 d.digits 0) (d.point - d.digits.length) =
      ofScientific negative d.mantissa d.exponent := by
  by_cases h : d.mantissa = 0
  · rw [digits_of_eq_zero h, h]
    exact (if_pos rfl).trans (if_pos rfl).symm
  · obtain ⟨n, hn⟩ := exists_toDigits_eq h
    have hvalue : Nat.ofDigitChars 10 d.digits 0 * 10 ^ n = d.mantissa := by
      rw [← ofDigitChars_append_replicate, ← hn, Nat.ofDigitChars_ten_toDigits]
    have hpoint : d.point - d.digits.length = d.exponent + n := by
      rw [point, if_neg h, hn, List.length_append, List.length_replicate]
      omega
    rw [hpoint, ← ofScientific_mul_pow, hvalue]

end Decimal

end Binary64

end Vicinity
