import DiffReview.Number.Binary64

/-!
# Rounding to binary64

A quotient of natural numbers, and a decimal number, as the nearest binary64 number; a tie goes to
the even neighbour.  All arithmetic is exact until the one rounding at the end.
-/

namespace DiffReview.Number

/-- The quotient rounded to the nearest natural number, a half to the even neighbour. -/
def roundQuotient (numerator denominator : Nat) : Nat :=
  let quotient := numerator / denominator
  let twice := 2 * (numerator % denominator)
  if twice < denominator ∨ (twice = denominator ∧ quotient % 2 = 0) then
    quotient
  else
    quotient + 1

/-- The integral part of the binary logarithm of a positive quotient. -/
def log2Quotient (numerator denominator : Nat) : Int :=
  let estimate : Int := (numerator.log2 : Int) - denominator.log2
  let reaches :=
    if 0 ≤ estimate then
      denominator * Nat.pow 2 estimate.toNat ≤ numerator
    else
      denominator ≤ numerator * Nat.pow 2 (-estimate).toNat
  if reaches then estimate else estimate - 1

/-- The bits of the binary64 number nearest to a quotient of natural numbers. -/
def quotientBits (numerator denominator : Nat) : Nat :=
  if numerator = 0 then
    0
  else
    let exponent := max (log2Quotient numerator denominator) (-1022)
    let shift := 52 - exponent
    let mantissa :=
      roundQuotient (numerator * Nat.pow 2 shift.toNat) (denominator * Nat.pow 2 (-shift).toNat)
    min ((exponent + 1022).toNat * Nat.pow 2 52 + mantissa) Binary64.infiniteSize

/-- The binary64 number nearest to a quotient of natural numbers. -/
def nearestQuotient (numerator denominator : Nat) : Binary64 :=
  .ofBits (quotientBits numerator denominator)

/-- The binary64 number nearest to `digits * 10 ^ exponent`. -/
def nearestDecimal (digits : Nat) (exponent : Int) : Binary64 :=
  let magnitude := exponent + (Nat.toDigits 10 digits).length
  if digits = 0 ∨ magnitude < -400 then
    .ofBits 0
  else if 400 < magnitude then
    .infinity
  else
    nearestQuotient (digits * Nat.pow 10 exponent.toNat) (Nat.pow 10 (-exponent).toNat)

/-- The binary64 number nearest to an integer. -/
def nearestInteger (value : Int) : Binary64 :=
  let size := nearestQuotient value.natAbs 1
  if value < 0 then -size else size

instance (value : Nat) : OfNat Binary64 value := ⟨nearestQuotient value 1⟩

instance : OfScientific Binary64 where
  ofScientific digits negative exponent :=
    nearestDecimal digits (if negative then -(exponent : Int) else exponent)

end DiffReview.Number
