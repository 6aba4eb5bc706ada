import Mathlib.Algebra.Order.Field.Power
import Mathlib.Data.Nat.Log
import Mathlib.Tactic.FieldSimp
import Mathlib.Tactic.Linarith
import Mathlib.Tactic.Positivity
import Mathlib.Tactic.Ring
import Vicinity.Binary64

/-!
# Rounding

A ratio is rounded by its value, however it is spelled (`Binary64.ofRatio_eq_of_ratio`) : the
power of two below it is a matter of its value (`floorLog2_eq_iff`), and so are the whole numbers
around what is left. So a decimal is rounded by its value too (`ofScientific_mul_pow`), and the
exponents for which no power of ten is needed are rounded as all others
(`ofScientific_eq_ofRatio`). A number is what its own size is rounded to (`ofRatio_ratio`).
-/

namespace Vicinity

namespace Binary64

/-! ## The power of two below a ratio -/

theorem scale_snd_pos {den : Nat} (num : Nat) (exponent : Int) (h : 0 < den) :
    0 < (scale num den exponent).2 := by
  rw [scale]
  split
  · exact Nat.mul_pos h (Nat.pow_pos Nat.two_pos)
  · exact h

/-- The scaled ratio is the ratio, divided by the power of two. -/
theorem scale_ratio {den : Nat} (num : Nat) (exponent : Int) (h : 0 < den) :
    ((scale num den exponent).1 : ℚ) / (scale num den exponent).2 =
      num / den / 2 ^ exponent := by
  have hden : (den : ℚ) ≠ 0 := Nat.cast_ne_zero.mpr (Nat.ne_of_gt h)
  rw [scale]
  split
  · rename_i hexp
    obtain ⟨e, rfl⟩ := Int.eq_ofNat_of_zero_le hexp
    simp only [Int.toNat_natCast, zpow_natCast, Nat.pow_eq, Nat.cast_mul, Nat.cast_pow]
    field_simp
    norm_num
  · rename_i hexp
    obtain ⟨e, rfl⟩ : ∃ e : ℕ, exponent = -e := ⟨exponent.natAbs, by omega⟩
    simp only [Int.neg_neg, Int.toNat_natCast, zpow_neg, zpow_natCast, Nat.pow_eq, Nat.cast_mul,
      Nat.cast_pow]
    field_simp
    norm_num

theorem scale_lt_iff {den : Nat} (num : Nat) (exponent : Int) (h : 0 < den) :
    (scale num den exponent).1 < (scale num den exponent).2 ↔ (num / den : ℚ) < 2 ^ exponent := by
  have hpos : (0 : ℚ) < (scale num den exponent).2 :=
    Nat.cast_pos.mpr (scale_snd_pos num exponent h)
  have hpow : (0 : ℚ) < 2 ^ exponent := zpow_pos (by norm_num) exponent
  rw [← div_lt_one hpow, ← scale_ratio num exponent h, div_lt_one hpos, Nat.cast_lt]

/-- A ratio lies between the power of two below it and the next one. -/
theorem floorLog2_bounds {num den : Nat} (hnum : num ≠ 0) (hden : den ≠ 0) :
    (2 : ℚ) ^ floorLog2 num den ≤ num / den ∧ (num / den : ℚ) < 2 ^ (floorLog2 num den + 1) := by
  have hpos : 0 < den := Nat.pos_of_ne_zero hden
  have hdenq : (0 : ℚ) < den := Nat.cast_pos.mpr hpos
  have hnum_le : (2 : ℚ) ^ (num.log2 : Int) ≤ num := by
    exact_mod_cast Nat.log2_self_le hnum
  have hnum_lt : (num : ℚ) < 2 ^ ((num.log2 : Int) + 1) := by
    exact_mod_cast Nat.lt_log2_self (n := num)
  have hden_le : (2 : ℚ) ^ (den.log2 : Int) ≤ den := by
    exact_mod_cast Nat.log2_self_le hden
  have hden_lt : (den : ℚ) < 2 ^ ((den.log2 : Int) + 1) := by
    exact_mod_cast Nat.lt_log2_self (n := den)
  -- the quotient of the powers is off by one bit at most
  have hlow : (2 : ℚ) ^ ((num.log2 : Int) - den.log2 - 1) ≤ num / den := by
    rw [le_div_iff₀ hdenq]
    calc (2 : ℚ) ^ ((num.log2 : Int) - den.log2 - 1) * den
      _ ≤ 2 ^ ((num.log2 : Int) - den.log2 - 1) * 2 ^ ((den.log2 : Int) + 1) := by gcongr
      _ = 2 ^ (num.log2 : Int) := by rw [← zpow_add₀ (by norm_num)]; congr 1; ring
      _ ≤ num := hnum_le
  have hhigh : (num / den : ℚ) < 2 ^ ((num.log2 : Int) - den.log2 + 1) := by
    rw [div_lt_iff₀ hdenq]
    calc (num : ℚ)
      _ < 2 ^ ((num.log2 : Int) + 1) := hnum_lt
      _ = 2 ^ ((num.log2 : Int) - den.log2 + 1) * 2 ^ (den.log2 : Int) := by
        rw [← zpow_add₀ (by norm_num)]; congr 1; ring
      _ ≤ 2 ^ ((num.log2 : Int) - den.log2 + 1) * den := by gcongr
  have hcut := scale_lt_iff num ((num.log2 : Int) - den.log2) hpos
  rw [floorLog2]
  dsimp only
  split
  · rename_i hlt
    exact ⟨hlow, by simpa using hcut.mp hlt⟩
  · rename_i hge
    exact ⟨not_lt.mp (mt hcut.mpr hge), hhigh⟩

theorem le_floorLog2 {num den : Nat} (hnum : num ≠ 0) (hden : den ≠ 0) {e : Int}
    (h : (2 : ℚ) ^ e ≤ num / den) : e ≤ floorLog2 num den := by
  have hlt := lt_of_le_of_lt h (floorLog2_bounds hnum hden).2
  exact Int.lt_add_one_iff.mp ((zpow_lt_zpow_iff_right₀ (by norm_num)).mp hlt)

theorem floorLog2_lt {num den : Nat} (hnum : num ≠ 0) (hden : den ≠ 0) {e : Int}
    (h : (num / den : ℚ) < 2 ^ e) : floorLog2 num den < e :=
  (zpow_lt_zpow_iff_right₀ (by norm_num)).mp (lt_of_le_of_lt (floorLog2_bounds hnum hden).1 h)

theorem floorLog2_eq {num den : Nat} (hnum : num ≠ 0) (hden : den ≠ 0) {e : Int}
    (hle : (2 : ℚ) ^ e ≤ num / den) (hlt : (num / den : ℚ) < 2 ^ (e + 1)) :
    floorLog2 num den = e := by
  have h := le_floorLog2 hnum hden hle
  have h' := floorLog2_lt hnum hden hlt
  omega

/-! ## Ratios of one value -/

theorem scale_mul (k num den : Nat) (exponent : Int) :
    scale (k * num) (k * den) exponent =
      (k * (scale num den exponent).1, k * (scale num den exponent).2) := by
  rw [scale, scale]
  split
  · rw [Nat.mul_assoc]
  · rw [Nat.mul_assoc]

theorem floorLog2_mul {k num den : Nat} (hk : k ≠ 0) (hnum : num ≠ 0) (hden : den ≠ 0) :
    floorLog2 (k * num) (k * den) = floorLog2 num den := by
  have hratio : ((k * num : ℕ) / (k * den : ℕ) : ℚ) = num / den := by
    rw [Nat.cast_mul, Nat.cast_mul]
    exact mul_div_mul_left _ _ (Nat.cast_ne_zero.mpr hk)
  obtain ⟨hle, hlt⟩ := floorLog2_bounds hnum hden
  exact floorLog2_eq (Nat.mul_ne_zero hk hnum) (Nat.mul_ne_zero hk hden) (hratio ▸ hle)
    (hratio ▸ hlt)

theorem roundHalfEven_mul {k : Nat} (hk : k ≠ 0) (num den : Nat) :
    roundHalfEven (k * num) (k * den) = roundHalfEven num den := by
  have hpos : 0 < k := Nat.pos_of_ne_zero hk
  rw [roundHalfEven, roundHalfEven, Nat.mul_div_mul_left _ _ hpos, Nat.mul_mod_mul_left,
    Nat.mul_left_comm]
  simp only [Nat.mul_lt_mul_left hpos]

theorem ofRatio_mul {k den : Nat} (negative : Bool) (num : Nat) (hk : k ≠ 0) (hden : den ≠ 0) :
    ofRatio negative (k * num) (k * den) = ofRatio negative num den := by
  rw [ofRatio, ofRatio]
  by_cases hnum : num = 0
  · rw [if_pos (by rw [hnum, Nat.mul_zero]), if_pos hnum]
  · rw [if_neg (Nat.mul_ne_zero hk hnum), if_neg hnum, floorLog2_mul hk hnum hden]
    simp only [scale_mul, roundHalfEven_mul hk]

/-- A ratio is rounded by its value. -/
theorem ofRatio_eq_of_ratio {num den num' den' : Nat} (negative : Bool) (hden : den ≠ 0)
    (hden' : den' ≠ 0) (h : num * den' = num' * den) :
    ofRatio negative num den = ofRatio negative num' den' := by
  rw [← ofRatio_mul negative num hden' hden, ← ofRatio_mul negative num' hden hden',
    Nat.mul_comm den' num, h, Nat.mul_comm num' den, Nat.mul_comm den' den]

/-! ## Ratios out of range -/

theorem ofParts_of_lt (negative : Bool) (significand : Nat) {exponent : Int}
    (h : exponentGreatest < exponent) :
    ofParts negative significand exponent = .infinite negative :=
  dif_neg fun hc => absurd hc.2.2.1 (not_le.mpr h)

/-- A ratio that is too great is rounded to an infinity. -/
theorem ofRatio_of_le {num den : Nat} (negative : Bool) (hden : den ≠ 0)
    (h : (2 : ℚ) ^ (1024 : Int) ≤ num / den) : ofRatio negative num den = .infinite negative := by
  have hnum : num ≠ 0 := by
    rintro rfl
    rw [Nat.cast_zero, zero_div] at h
    exact absurd h (not_le.mpr (by positivity))
  have hlog := le_floorLog2 hnum hden h
  have hexp : exponentGreatest < max exponentLeast (floorLog2 num den - 52) := by
    rw [exponentGreatest]
    omega
  rw [ofRatio, if_neg hnum]
  dsimp only
  split
  · exact ofParts_of_lt negative _ (by omega)
  · exact ofParts_of_lt negative _ hexp

/-- A ratio that is too small is rounded to zero. -/
theorem ofRatio_of_lt {num den : Nat} (negative : Bool) (hden : den ≠ 0)
    (h : (num / den : ℚ) < 2 ^ (-1075 : Int)) : ofRatio negative num den = zero negative := by
  rw [ofRatio]
  by_cases hnum : num = 0
  · rw [if_pos hnum]
  have hpos : 0 < den := Nat.pos_of_ne_zero hden
  have hlog := floorLog2_lt hnum hden h
  have hexp : max exponentLeast (floorLog2 num den - 52) = exponentLeast := by
    rw [exponentLeast]
    omega
  -- what is left is less than one half
  have hhalf : 2 * (scale num den exponentLeast).1 < (scale num den exponentLeast).2 := by
    have hdenq : (0 : ℚ) < (scale num den exponentLeast).2 :=
      Nat.cast_pos.mpr (scale_snd_pos num exponentLeast hpos)
    have hratio := scale_ratio num exponentLeast hpos
    have hlt : (num / den / 2 ^ exponentLeast : ℚ) < 1 / 2 := by
      rw [div_lt_iff₀ (zpow_pos (by norm_num) _)]
      calc (num / den : ℚ)
        _ < 2 ^ (-1075 : Int) := h
        _ = 1 / 2 * 2 ^ exponentLeast := by
          rw [exponentLeast, show (-1075 : Int) = -1 + -1074 by norm_num,
            zpow_add₀ (by norm_num), zpow_neg_one, one_div]
    rw [← hratio, div_lt_iff₀ hdenq] at hlt
    have hcast : ((2 * (scale num den exponentLeast).1 : ℕ) : ℚ) <
        (scale num den exponentLeast).2 := by
      push_cast
      linarith
    exact_mod_cast hcast
  have hround :
      roundHalfEven (scale num den exponentLeast).1 (scale num den exponentLeast).2 = 0 := by
    have hlt : (scale num den exponentLeast).1 < (scale num den exponentLeast).2 := by omega
    rw [roundHalfEven]
    simp only [Nat.mod_eq_of_lt hlt, Nat.div_eq_of_lt hlt, if_pos hhalf]
  rw [if_neg hnum]
  simp only [hexp, hround]
  rfl

/-! ## Decimals -/

/-- A decimal is rounded as the ratio it is, whatever its exponent. -/
theorem ofScientific_eq_ofRatio (negative : Bool) (mantissa : Nat) (exponent : Int) :
    ofScientific negative mantissa exponent =
      ofRatio negative (mantissa * 10 ^ exponent.toNat) (10 ^ (-exponent).toNat) := by
  rw [ofScientific]
  by_cases hzero : mantissa = 0
  · rw [if_pos hzero, hzero, Nat.zero_mul, ofRatio, if_pos rfl]
  rw [if_neg hzero]
  split
  · rename_i hexp
    obtain ⟨e, rfl⟩ := Int.eq_ofNat_of_zero_le hexp
    have hden : (-(e : Int)).toNat = 0 := by omega
    rw [hden, Int.toNat_natCast, Nat.pow_zero]
    split
    · rename_i hlarge
      refine (ofRatio_of_le negative Nat.one_ne_zero ?_).symm
      have hmantissa : 1 ≤ mantissa := Nat.one_le_iff_ne_zero.mpr hzero
      have hsize : 2 ^ (3 * e) ≤ mantissa * 10 ^ e :=
        calc 2 ^ (3 * e)
          _ = 8 ^ e := by rw [Nat.pow_mul]
          _ ≤ 10 ^ e := Nat.pow_le_pow_left (by omega) e
          _ ≤ mantissa * 10 ^ e := Nat.le_mul_of_pos_left _ hmantissa
      rw [Nat.cast_one, div_one]
      calc (2 : ℚ) ^ (1024 : Int)
        _ ≤ 2 ^ ((3 * e : ℕ) : Int) := zpow_le_zpow_right₀ (by norm_num) (by omega)
        _ ≤ (mantissa * 10 ^ e : ℕ) := by exact_mod_cast hsize
    · rfl
  · rename_i hexp
    obtain ⟨e, rfl⟩ : ∃ e : ℕ, exponent = -e := ⟨exponent.natAbs, by omega⟩
    have hnum : (-(e : Int)).toNat = 0 := by omega
    rw [Int.natAbs_neg, Int.natAbs_natCast, hnum, Int.neg_neg, Int.toNat_natCast, Nat.pow_zero,
      Nat.mul_one]
    split
    · rename_i hsmall
      refine (ofRatio_of_lt negative (Nat.pow_pos (by omega)).ne' ?_).symm
      have hpow : (0 : ℚ) < (10 ^ e : ℕ) := by positivity
      have hsize : mantissa * 2 ^ 1075 < 10 ^ e :=
        calc mantissa * 2 ^ 1075
          _ < 2 ^ (mantissa.log2 + 1) * 2 ^ 1075 :=
            Nat.mul_lt_mul_of_pos_right Nat.lt_log2_self (by positivity)
          _ = 2 ^ (mantissa.log2 + 1 + 1075) := by rw [← Nat.pow_add]
          _ ≤ 2 ^ (3 * e) := Nat.pow_le_pow_right Nat.two_pos (by omega)
          _ = 8 ^ e := by rw [Nat.pow_mul]
          _ ≤ 10 ^ e := Nat.pow_le_pow_left (by omega) e
      rw [div_lt_iff₀ hpow, zpow_neg, inv_mul_eq_div, lt_div_iff₀ (by positivity)]
      exact_mod_cast hsize
    · rfl

/-- A decimal is rounded by its value. -/
theorem ofScientific_mul_pow (negative : Bool) (mantissa k : Nat) (exponent : Int) :
    ofScientific negative (mantissa * 10 ^ k) exponent =
      ofScientific negative mantissa (exponent + k) := by
  rw [ofScientific_eq_ofRatio, ofScientific_eq_ofRatio]
  refine ofRatio_eq_of_ratio negative (Nat.pow_pos (by omega)).ne' (Nat.pow_pos (by omega)).ne' ?_
  rw [Nat.mul_assoc, Nat.mul_assoc, Nat.mul_assoc, ← Nat.pow_add, ← Nat.pow_add, ← Nat.pow_add]
  congr 2
  omega

/-! ## Numbers -/

theorem ratio_snd_ne_zero (x : Finite) : x.ratio.2 ≠ 0 := by
  rw [Finite.ratio]
  split
  · exact Nat.one_ne_zero
  · exact (Nat.pow_pos Nat.two_pos).ne'

/-- The size of a number, as a ratio. -/
theorem ratio_cast (x : Finite) :
    (x.ratio.1 / x.ratio.2 : ℚ) = x.significand * 2 ^ x.exponent := by
  rw [Finite.ratio]
  split
  · rename_i hexp
    obtain ⟨e, he⟩ := Int.eq_ofNat_of_zero_le hexp
    simp [he]
  · rename_i hexp
    obtain ⟨e, he⟩ : ∃ e : ℕ, x.exponent = -e := ⟨x.exponent.natAbs, by omega⟩
    simp [he, div_eq_mul_inv]

theorem ratio_fst_ne_zero {x : Finite} (h : x.significand ≠ 0) : x.ratio.1 ≠ 0 := by
  intro h0
  have hcast := ratio_cast x
  rw [h0, Nat.cast_zero, zero_div] at hcast
  exact absurd hcast.symm (by positivity)

theorem roundHalfEven_mul_self (n : Nat) {den : Nat} (h : 0 < den) :
    roundHalfEven (n * den) den = n := by
  rw [roundHalfEven]
  simp only [Nat.mul_mod_left, Nat.mul_zero, if_pos h, Nat.mul_div_cancel n h]

theorem ofParts_canonical (x : Finite) :
    ofParts x.negative x.significand x.exponent = .finite x :=
  dif_pos x.canonical

/-- The exponent of a number is what a ratio of its size is rounded with. -/
theorem exponent_eq {x : Finite} (h : x.significand ≠ 0) :
    max exponentLeast (floorLog2 x.ratio.1 x.ratio.2 - 52) = x.exponent := by
  obtain ⟨hbound, hleast, -, hbits⟩ := x.canonical
  have hden := ratio_snd_ne_zero x
  have hnum := ratio_fst_ne_zero h
  have hhigh : floorLog2 x.ratio.1 x.ratio.2 < 53 + x.exponent := by
    refine floorLog2_lt hnum hden ?_
    rw [ratio_cast, zpow_add₀ (by norm_num)]
    have hcast : (x.significand : ℚ) < 2 ^ (53 : Int) := by
      exact_mod_cast hbound
    gcongr
  obtain hfull | hleast' := hbits
  · have hlow : 52 + x.exponent ≤ floorLog2 x.ratio.1 x.ratio.2 := by
      refine le_floorLog2 hnum hden ?_
      rw [ratio_cast, zpow_add₀ (by norm_num)]
      have hcast : (2 : ℚ) ^ (52 : Int) ≤ x.significand := by
        exact_mod_cast hfull
      gcongr
    omega
  · omega

/-- A number is what its own size is rounded to. -/
theorem ofRatio_ratio (x : Finite) : ofRatio x.negative x.ratio.1 x.ratio.2 = .finite x := by
  have hden : 0 < x.ratio.2 := Nat.pos_of_ne_zero (ratio_snd_ne_zero x)
  by_cases hzero : x.significand = 0
  · have hnum : x.ratio.1 = 0 := by
      rw [Finite.ratio]
      split <;> simp [hzero]
    obtain ⟨negative, significand, exponent, hcanonical⟩ := x
    obtain rfl : significand = 0 := hzero
    obtain rfl : exponent = exponentLeast := by
      simpa [IsCanonical, significandLeast] using hcanonical.2.2.2
    rw [ofRatio, if_pos hnum]
    rfl
  have hnum := ratio_fst_ne_zero hzero
  have hpos := scale_snd_pos x.ratio.1 x.exponent hden
  have hscale : (scale x.ratio.1 x.ratio.2 x.exponent).1 =
      x.significand * (scale x.ratio.1 x.ratio.2 x.exponent).2 := by
    have hcast : ((scale x.ratio.1 x.ratio.2 x.exponent).2 : ℚ) ≠ 0 :=
      Nat.cast_ne_zero.mpr hpos.ne'
    have hratio := scale_ratio x.ratio.1 x.exponent hden
    rw [ratio_cast, mul_div_cancel_right₀ _ (by positivity), div_eq_iff hcast] at hratio
    exact_mod_cast hratio
  have hround : roundHalfEven (scale x.ratio.1 x.ratio.2 x.exponent).1
      (scale x.ratio.1 x.ratio.2 x.exponent).2 = x.significand := by
    rw [hscale, roundHalfEven_mul_self _ hpos]
  rw [ofRatio, if_neg hnum]
  simp only [exponent_eq hzero, hround, if_neg (Nat.ne_of_lt x.canonical.1)]
  exact ofParts_canonical x

end Binary64

end Vicinity
