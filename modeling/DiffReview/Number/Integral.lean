import DiffReview.Number.Binary64

/-!
# Whole numbers among the binary64 numbers

A finite binary64 number is an integer times a power of two, which is enough to tell exactly whether
it is whole, and which integer it then is.
-/

namespace DiffReview.Number

/-- A finite binary64 number as `mantissa * 2 ^ exponent`. -/
def decompose? (number : Binary64) : Option (Int × Int) :=
  let field := number.size / Nat.pow 2 52
  let fraction : Nat := number.size % Nat.pow 2 52
  if field = 0x7FF then
    none
  else
    let size := if field = 0 then fraction else Nat.pow 2 52 + fraction
    let exponent : Int := (if field = 0 then 1 else field : Nat) - 1075
    some (if number.isNegative then -(size : Int) else (size : Int), exponent)

/-- The integer `mantissa * 2 ^ exponent`, if it is one. -/
def whole? (mantissa exponent : Int) : Option Int :=
  if 0 ≤ exponent then
    some (mantissa * Int.pow 2 exponent.toNat)
  else
    let unit := Int.pow 2 (-exponent).toNat
    if mantissa % unit = 0 then some (mantissa / unit) else none

end DiffReview.Number
