import DiffReview.Field.NumberText
import DiffReview.Json.Basic
import DiffReview.Number.Integral

/-!
# Fields of outside data

Data from outside is accepted field by field.  A text field takes strings only; an integer field
also takes a truth value, a whole number and the text of an integer, and a field for binary64
numbers all that and the text of any number.
-/

namespace DiffReview

open Number (Binary64)
open Text

namespace Field

/-- The value of a text field. -/
def text (value : Json) : Except FieldFault String :=
  match value with
  | .text points =>
    match soundText? points with
    | some text => .ok (String.ofList text)
    | none => .error .stringUnicode
  | _ => .error .stringType

/-- The value of a text field that takes surrogates as well; each counts as a replacement
character. -/
def anyText (value : Json) : Except FieldFault String :=
  match value with
  | .text points => .ok (String.ofList (patchedText points))
  | _ => .error .stringType

/-- The value of a text field that is trimmed and then must not be empty. -/
def trimmedText (value : Json) : Except FieldFault String := do
  let trimmed := trim isWhiteSpace (← text value).toList
  if trimmed.isEmpty then .error .stringTooShort else return String.ofList trimmed

/-- The integer that a binary64 number is. -/
def integerOfFloat (value : Binary64) : Except FieldFault Int :=
  match Number.decompose? value with
  | none => .error .finiteNumber
  | some (mantissa, exponent) =>
    match Number.whole? mantissa exponent with
    | none => .error .integerFromFloat
    | some whole =>
      if -Int.pow 2 63 < whole ∧ whole < Int.pow 2 63 then .ok whole
      else .error .integerParsingSize

/-- The value of an integer field. -/
def integer : Json → Except FieldFault Int
  | .integer value => .ok value
  | .bool value => .ok (if value then 1 else 0)
  | .float value => integerOfFloat value
  | .text points =>
    match soundText? points with
    | some text => integerOfText text
    | none => .error .integerParsing
  | _ => .error .integerType

/-- A check of an integer that must not be smaller than another one. -/
def integerFrom (least : Int) (value : Json) : Except FieldFault Int := do
  let number ← integer value
  if number < least then .error .atLeast else return number

/-- The words for a truth value, in small letters. -/
def truthWords : List (String × Bool) :=
  [("0", false), ("off", false), ("f", false), ("false", false), ("n", false), ("no", false),
    ("1", true), ("on", true), ("t", true), ("true", true), ("y", true), ("yes", true)]

/-- The truth value that a number of at most sixty-four bits stands for. -/
def truthOfNumber (number : Int) : Except FieldFault Bool :=
  if number < -Int.pow 2 63 ∨ Int.pow 2 63 ≤ number then .error .boolType
  else if number = 0 then .ok false
  else if number = 1 then .ok true
  else .error .boolParsing

/-- The value of a truth field. -/
def truth : Json → Except FieldFault Bool
  | .bool value => .ok value
  | .integer value => truthOfNumber value
  | .float value =>
    match integerOfFloat value with
    | .ok number => truthOfNumber number
    | .error _ => .error .boolType
  | .text points =>
    match soundText? points with
    | some text => (truthWords.lookup (String.ofList text).toLower).elim (.error .boolParsing) .ok
    | none => .error .boolParsing
  | _ => .error .boolType

/-- The value of a field for binary64 numbers. -/
def real : Json → Except FieldFault Binary64
  | .float value => .ok value
  | .integer value =>
    let number := Number.nearestInteger value
    if number.isInfinite then .error .floatType else .ok number
  | .bool value => .ok (if value then 1 else 0)
  | .text points =>
    match soundText? points with
    | some text => (real? text).elim (.error .floatParsing) .ok
    | none => .error .floatParsing
  | _ => .error .floatType

/-- A check of a number that must be greater than zero. -/
def positive (value : Json) : Except FieldFault Binary64 := do
  let number ← real value
  if 0 < number then return number else .error .greaterThan

end Field

end DiffReview
