/-!
# Binary floating-point numbers

A `Binary64` is what 64 bits of binary floating point can hold : a number
`± significand · 2 ^ exponent` with at most 53 bits in its significand, an infinity of either
sign, or no number at all. Every number has one spelling (`Binary64.IsCanonical`), but zero has
two signs, and `-0.0` and `0.0` are told apart.

`Binary64.ofRatio` rounds a ratio to the nearest number, a tie to the one with an even
significand, and a number that is too great to an infinity; `Binary64.ofScientific` does so for
what decimal digits write. `Binary64.toInt?` is the whole number that a number is equal to.
-/

namespace Vicinity

namespace Binary64

/-! ## Numbers -/

/-- What every significand stays below, `2 ^ 53`. -/
def significandBound : Nat := 9007199254740992

/-- The least significand that has 53 bits, `2 ^ 52`. -/
def significandLeast : Nat := 4503599627370496

/-- The exponent of the least number above zero. -/
def exponentLeast : Int := -1074

/-- The exponent of the greatest numbers. -/
def exponentGreatest : Int := 971

/-- The significand has all its 53 bits, unless the exponent is the least one. -/
def IsCanonical (significand : Nat) (exponent : Int) : Prop :=
  significand < significandBound ∧ exponentLeast ≤ exponent ∧ exponent ≤ exponentGreatest ∧
    (significandLeast ≤ significand ∨ exponent = exponentLeast)

instance (significand : Nat) (exponent : Int) : Decidable (IsCanonical significand exponent) := by
  unfold IsCanonical
  infer_instance

/-- The number `± significand · 2 ^ exponent`. -/
structure Finite where
  negative : Bool
  significand : Nat
  exponent : Int
  canonical : IsCanonical significand exponent
deriving DecidableEq

end Binary64

/-- A number, an infinity or no number. -/
inductive Binary64 where
  | finite (x : Binary64.Finite)
  | infinite (negative : Bool)
  | nan
deriving DecidableEq

namespace Binary64

/-- Zero, with a sign. -/
def zero (negative : Bool) : Binary64 :=
  .finite ⟨negative, 0, exponentLeast, by decide⟩

/-- Whether this is zero of either sign. -/
def isZero : Binary64 → Bool
  | finite x => x.significand == 0
  | infinite _ | nan => false

/-- The number of a significand and an exponent in the canonical form. Others are too great. -/
def ofParts (negative : Bool) (significand : Nat) (exponent : Int) : Binary64 :=
  if h : IsCanonical significand exponent then .finite ⟨negative, significand, exponent, h⟩
  else .infinite negative

/-! ## Rounding -/

/-- The ratio `num / den / 2 ^ exponent`. -/
def scale (num den : Nat) (exponent : Int) : Nat × Nat :=
  if 0 ≤ exponent then (num, den * Nat.pow 2 exponent.toNat)
  else (num * Nat.pow 2 (-exponent).toNat, den)

/-- The exponent of the greatest power of two that is no greater than a ratio. -/
def floorLog2 (num den : Nat) : Int :=
  let size : Int := num.log2 - den.log2
  let (n, d) := scale num den size
  if n < d then size - 1 else size

/-- The whole number nearest to a ratio, of two that are equally near the even one. -/
def roundHalfEven (num den : Nat) : Nat :=
  let q := num / den
  let r := num % den
  if 2 * r < den then q
  else if den < 2 * r then q + 1
  else q + q % 2

/-- The number nearest to a ratio. Rounding may carry into a 54th bit. -/
def ofRatio (negative : Bool) (num den : Nat) : Binary64 :=
  if num = 0 then zero negative
  else
    let exponent := max exponentLeast (floorLog2 num den - 52)
    let (n, d) := scale num den exponent
    let significand := roundHalfEven n d
    if significand = significandBound then ofParts negative significandLeast (exponent + 1)
    else ofParts negative significand exponent

/-- The number nearest to `mantissa · 10 ^ exponent`. Exponents that are far beyond all numbers
need no power of ten. -/
def ofScientific (negative : Bool) (mantissa : Nat) (exponent : Int) : Binary64 :=
  if mantissa = 0 then zero negative
  else if 0 ≤ exponent then
    if 400 < exponent then .infinite negative
    else ofRatio negative (mantissa * Nat.pow 10 exponent.toNat) 1
  else if mantissa.log2 + 1100 < 3 * exponent.natAbs then zero negative
  else ofRatio negative mantissa (Nat.pow 10 exponent.natAbs)

/-- The number nearest to a whole number. -/
def ofInt (n : Int) : Binary64 := ofRatio (n < 0) n.natAbs 1

/-! ## Values -/

/-- The size of a number as a ratio. -/
def Finite.ratio (x : Finite) : Nat × Nat :=
  if 0 ≤ x.exponent then (x.significand * Nat.pow 2 x.exponent.toNat, 1)
  else (x.significand, Nat.pow 2 x.exponent.natAbs)

/-- The whole number that a number is equal to. -/
def toInt? : Binary64 → Option Int
  | finite x =>
    let (num, den) := x.ratio
    if num % den = 0 then
      let size : Int := (num / den : Nat)
      some (if x.negative then -size else size)
    else none
  | infinite _ | nan => none

/-- The whole number before the point. -/
def truncate? : Binary64 → Option Int
  | finite x =>
    let (num, den) := x.ratio
    let size : Int := (num / den : Nat)
    some (if x.negative then -size else size)
  | infinite _ | nan => none

end Binary64

end Vicinity
