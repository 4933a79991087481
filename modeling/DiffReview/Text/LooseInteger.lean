import DiffReview.Text.Blank
import DiffReview.Text.Decimal

/-!
# Integers in loose form

An integer in loose form has digits of any script, single low lines between digits, a sign of either
kind, and blanks around all that.
-/

namespace DiffReview.Text

/-- The number that digits denote, between which single low lines may stand. -/
def looseNatural? (text : List Char) : Option Nat :=
  let groups := text.splitOn '_'
  let digits := groups.flatten
  if groups.all (fun group => !group.isEmpty && group.all isDigit) ∧ digits.length ≤ maxDigits then
    some (digitsValue digits)
  else
    none

/-- The integer that a text denotes in loose form. -/
def looseInteger? (text : List Char) : Option Int :=
  match trim isBlank text with
  | '-' :: digits => (looseNatural? digits).map fun size => -(size : Int)
  | '+' :: digits => (looseNatural? digits).map fun size => (size : Int)
  | digits => (looseNatural? digits).map fun size => (size : Int)

end DiffReview.Text
