import Vicinity.Binary64
import Vicinity.Text.Tokens

/-!
# Binary numbers as text

A number is written with the fewest digits that read back as the same number, and of all decimals
with so few digits that do, with the nearest one (`Binary64.Finite.shortest`). Such a decimal is
one of the two neighbors of the number among the decimals of so many digits, which are found by
cutting off its exact digits; a number that none of up to seventeen digits reads back keeps all
its digits, so that reading back never fails.

The digits are written positionally as long as the point stands within seventeen digits of the
first one, with an exponent otherwise, and never without a point or an exponent.
-/

namespace Vicinity

namespace Binary64

/-! ## Digits -/

/-- The decimal `mantissa · 10 ^ exponent`. -/
structure Decimal where
  mantissa : Nat
  exponent : Int

namespace Decimal

/-- The digits of the mantissa but for zeros at its end. -/
def digits (d : Decimal) : List Char :=
  match Text.dropEnd (· = '0') (Nat.toDigits 10 d.mantissa) with
  | [] => ['0']
  | digits => digits

/-- How many digits stand before the point. -/
def point (d : Decimal) : Int :=
  if d.mantissa = 0 then 1 else (Nat.toDigits 10 d.mantissa).length + d.exponent

end Decimal

namespace Finite

/-- Whether a decimal reads back as a number. -/
def readsBack (x : Finite) (d : Decimal) : Bool :=
  ofScientific x.negative d.mantissa d.exponent == .finite x

/-- The size of a number as a decimal. -/
def exact (x : Finite) : Decimal :=
  if 0 ≤ x.exponent then ⟨x.significand * Nat.pow 2 x.exponent.toNat, 0⟩
  else ⟨x.significand * Nat.pow 5 x.exponent.natAbs, x.exponent⟩

/-- The neighbors of the decimal `d` among those that have `cut` digits less, the nearer one
first. Of two that are equally near the even one is first. -/
def neighbors (d : Decimal) (cut : Nat) : List Decimal :=
  let unit := Nat.pow 10 cut
  let below : Decimal := ⟨d.mantissa / unit, d.exponent + cut⟩
  let above : Decimal := ⟨d.mantissa / unit + 1, d.exponent + cut⟩
  if d.mantissa % unit = 0 then [below]
  else if roundHalfEven d.mantissa unit = below.mantissa then [below, above]
  else [above, below]

/-- The greatest number of digits that are tried. -/
def maxDigits : Nat := 17

/-- The decimal of the fewest digits that reads back as a number. -/
def shortest (x : Finite) : Decimal :=
  let exact := x.exact
  let size := (Nat.toDigits 10 exact.mantissa).length
  let tried := (List.range (min maxDigits size)).flatMap fun n => neighbors exact (size - (n + 1))
  (tried.find? x.readsBack).getD exact

end Finite

/-! ## Layout -/

/-- The digits of a number whose first digit stands `point` places before the point. -/
def positional (digits : List Char) (point : Int) : List Char :=
  if point ≤ 0 then '0' :: '.' :: (List.replicate (-point).toNat '0' ++ digits)
  else if (digits.length : Int) ≤ point then
    digits ++ List.replicate (point.toNat - digits.length) '0' ++ ['.', '0']
  else digits.take point.toNat ++ '.' :: digits.drop point.toNat

/-- An exponent has a sign and at least two digits. -/
def exponentText (n : Int) : List Char :=
  let digits := Nat.toDigits 10 n.natAbs
  'e' :: (if n < 0 then '-' else '+') :: (if digits.length < 2 then '0' :: digits else digits)

/-- The digits with the point behind the first one, and an exponent. -/
def scientific (digits : List Char) (point : Int) : List Char :=
  match digits with
  | [] => []
  | [d] => d :: exponentText (point - 1)
  | d :: rest => d :: '.' :: (rest ++ exponentText (point - 1))

/-- Positional from `0.0001` up to sixteen digits before the point, otherwise with an exponent. -/
def layout (digits : List Char) (point : Int) : List Char :=
  if -3 ≤ point ∧ point ≤ 16 then positional digits point else scientific digits point

/-- A minus sign before what is negative. -/
def signed (negative : Bool) (text : List Char) : List Char :=
  if negative then '-' :: text else text

/-- The text of a number, given the words for infinity and for no number. -/
def toText (infinity notANumber : List Char) : Binary64 → List Char
  | finite x => signed x.negative (layout x.shortest.digits x.shortest.point)
  | infinite negative => signed negative infinity
  | nan => notANumber

end Binary64

end Vicinity
