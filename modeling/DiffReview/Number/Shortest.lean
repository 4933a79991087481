import DiffReview.Number.Rounding

/-!
# The shortest text of a number

A binary64 number is written with the fewest digits that read back as the same number, and of those
with the digits nearest to it.
-/

namespace DiffReview.Number

/-- A positive number `numerator / denominator` with the ends of the interval that rounds to it,
over the same denominator. -/
structure RoundingInterval where
  /-- The lower end. -/
  lower : Nat
  /-- The number itself. -/
  value : Nat
  /-- The upper end. -/
  upper : Nat
  /-- The common denominator. -/
  denominator : Nat
  /-- Whether the ends round to the number as well. -/
  closed : Bool
deriving Repr

namespace RoundingInterval

/-- The interval of a positive finite number, given the bits without the sign. -/
def ofBits (bits : Nat) : RoundingInterval :=
  let field := bits / Nat.pow 2 52
  let fraction := bits % Nat.pow 2 52
  let mantissa := if field = 0 then fraction else Nat.pow 2 52 + fraction
  let exponent : Int := (if field = 0 then 1 else field : Nat) - 1077
  let scale := Nat.pow 2 exponent.toNat
  let narrow := fraction = 0 ∧ 1 < field
  { lower := (4 * mantissa - if narrow then 1 else 2) * scale
    value := 4 * mantissa * scale
    upper := (4 * mantissa + 2) * scale
    denominator := Nat.pow 2 (-exponent).toNat
    closed := mantissa % 2 = 0 }

/-- Whether `digits * 10 ^ exponent` rounds to the number. -/
def holds (interval : RoundingInterval) (digits : Nat) (exponent : Int) : Bool :=
  let scaled := digits * Nat.pow 10 exponent.toNat * interval.denominator
  let unit := Nat.pow 10 (-exponent).toNat
  if interval.closed then
    interval.lower * unit ≤ scaled && scaled ≤ interval.upper * unit
  else
    interval.lower * unit < scaled && scaled < interval.upper * unit

/-- The least exponent of ten whose power exceeds the number. -/
def scale (interval : RoundingInterval) : Int :=
  let estimate : Int :=
    ((Nat.toDigits 10 interval.value).length : Int) - (Nat.toDigits 10 interval.denominator).length
  let exceeds :=
    interval.value * Nat.pow 10 (-estimate).toNat <
      interval.denominator * Nat.pow 10 estimate.toNat
  if exceeds then estimate else estimate + 1

/-- The shortest decimal among those of at most `fuel` more digits than `count` that rounds to the
number, as digits and exponent. -/
def search (interval : RoundingInterval) (scale : Int) : Nat → Nat → Nat × Int
  | 0, _ => (0, 0)
  | fuel + 1, count =>
    let exponent := scale - count
    let numerator := interval.value * Nat.pow 10 (-exponent).toNat
    let unit := interval.denominator * Nat.pow 10 exponent.toNat
    let below := numerator / unit
    match interval.holds below exponent, interval.holds (below + 1) exponent with
    | true, true => (roundQuotient numerator unit, exponent)
    | true, false => (below, exponent)
    | false, true => (below + 1, exponent)
    | false, false => interval.search scale fuel (count + 1)

end RoundingInterval

/-- Digits without zeros at the end, and the exponent that goes with them. -/
def stripZeros (fuel : Nat) (digits : Nat) (exponent : Int) : Nat × Int :=
  match fuel with
  | 0 => (digits, exponent)
  | fuel + 1 =>
    if digits % 10 = 0 ∧ 0 < digits then stripZeros fuel (digits / 10) (exponent + 1)
    else (digits, exponent)

/-- The text of `0.DIGITS * 10 ^ point`: positional if the point lies at most sixteen places
behind and less than four places before the first digit, otherwise with an exponent of at least
two digits. -/
def layOutDigits (digits : List Char) (point : Int) : List Char :=
  if -4 < point ∧ point ≤ 0 then
    ['0', '.'] ++ List.replicate (-point).toNat '0' ++ digits
  else if 0 < point ∧ point ≤ 16 then
    let whole := point.toNat
    if digits.length ≤ whole then
      digits ++ List.replicate (whole - digits.length) '0' ++ ['.', '0']
    else
      digits.take whole ++ ['.'] ++ digits.drop whole
  else
    let exponent := point - 1
    let size := Nat.toDigits 10 exponent.natAbs
    let mantissa := match digits with
      | [] => []
      | [digit] => [digit]
      | digit :: others => digit :: '.' :: others
    mantissa ++ ['e', if exponent < 0 then '-' else '+'] ++
      (if size.length < 2 then '0' :: size else size)

/-- The shortest text of a positive finite number, given its bits. -/
def positiveText (bits : Nat) : List Char :=
  let interval := RoundingInterval.ofBits bits
  let (digits, exponent) := interval.search interval.scale 18 1
  let (digits, exponent) := stripZeros 18 digits exponent
  let text := Nat.toDigits 10 digits
  layOutDigits text (exponent + text.length)

/-- The shortest text of a binary64 number. -/
def shortestText (number : Binary64) : String :=
  let sign := if number.isNegative then "-" else ""
  if number.isUndefined then
    "nan"
  else if number.isInfinite then
    sign ++ "inf"
  else if number.size = 0 then
    sign ++ "0.0"
  else
    sign ++ String.ofList (positiveText number.size)

end DiffReview.Number
