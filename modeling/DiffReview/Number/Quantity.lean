import DiffReview.Number.Shortest
import DiffReview.Text.Decimal

/-!
# Quantities

A number that is kept as it was given: a whole number, or a binary64 number.  A time is such a
number of seconds.  What else gets done before it is over does not follow from the number.
-/

namespace DiffReview

open Number (Binary64)
open Text (DigitLimitError)

/-- A number as it was given. -/
inductive Quantity
  /-- A whole number, written without a point. -/
  | whole (value : Int)
  /-- A binary64 number. -/
  | fractional (value : Binary64)

namespace Quantity

/-- The text of a number, unless it is a whole number with too many digits. -/
def text : Quantity → Except DigitLimitError String
  | whole value => Text.integerText value
  | fractional value => .ok (Number.shortestText value)

/-- The nearest binary64 number. -/
def nearest : Quantity → Binary64
  | whole value => Number.nearestInteger value
  | fractional value => value

/-- Whether a whole number is so large that the nearest binary64 number is infinite. -/
def isTooLarge : Quantity → Bool
  | whole value => 0 < value && (Number.nearestInteger value).isInfinite
  | fractional _ => false

end Quantity

/-- Whether a number of seconds is over by a turn.  How long a turn takes depends on the machine. -/
abbrev Pace := Quantity → Nat → Bool

/-- How long something may take. -/
structure Duration where
  /-- The number of seconds. -/
  amount : Quantity
  /-- Whether the time is over by a turn, which the number of seconds does not tell. -/
  isOverBy : Nat → Bool := fun _ => false

/-- A number of seconds at a pace. -/
def Pace.duration (pace : Pace) (amount : Quantity) : Duration where
  amount := amount
  isOverBy := pace amount

namespace Duration

/-- A whole number of seconds, in which there is time for any number of turns. -/
abbrev whole (value : Int) : Duration where
  amount := .whole value

/-- A number of seconds, in which there is time for any number of turns. -/
abbrev fractional (value : Binary64) : Duration where
  amount := .fractional value

/-- The text of a time. -/
def text (duration : Duration) : Except DigitLimitError String :=
  duration.amount.text

/-- The number of seconds. -/
def seconds (duration : Duration) : Binary64 :=
  duration.amount.nearest

/-- Whether there is no time at all. -/
def isNone (duration : Duration) : Bool :=
  duration.seconds ≤ 0

/-- Whether the time is over before another service has been asked. -/
def isBrief (duration : Duration) : Bool :=
  duration.isOverBy 1

/-- Whether there are too many seconds for a clock. -/
def isTooLarge (duration : Duration) : Bool :=
  duration.amount.isTooLarge

/-- Why a time is refused that is too large for a clock. -/
def tooLargeReason : String := "int too large to convert to float"

end Duration

end DiffReview
