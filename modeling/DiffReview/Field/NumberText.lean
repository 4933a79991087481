import DiffReview.Field.Fault
import DiffReview.Number.Rounding
import DiffReview.Text.Blank
import DiffReview.Text.Decimal
import DiffReview.Text.Lines

/-!
# Numbers in text fields

A text denotes an integer if it is one in its plain form, or becomes one when blanks around it, a
plus sign, zeros at its start, zeros after a point and low lines between digits are dropped.  A text
denotes a binary64 number in any of the usual forms, in which low lines may stand as well.
-/

namespace DiffReview.Field

open Number (Binary64)
open Text

/-- An ASCII digit. -/
def isAsciiDigit (character : Char) : Bool :=
  character.isDigit

/-- A text without its low lines, if each stands by itself between two other characters. -/
def dropLowLines? (text : List Char) : Option (List Char) :=
  let groups := text.splitOn '_'
  if 1 < groups.length ∧ groups.all (!·.isEmpty) then some groups.flatten else none

/-! ## Integers -/

/-- An ASCII digit other than zero. -/
def isLeadingDigit (character : Char) : Bool :=
  isAsciiDigit character && character != '0'

/-- The number that plain digits denote: a zero stands only alone. -/
def plainNatural? : List Char → Option Nat
  | ['0'] => some 0
  | first :: rest =>
    if isLeadingDigit first && rest.all isAsciiDigit then
      some (digitsValue (first :: rest))
    else
      none
  | [] => none

/-- The integer that a plain text denotes: digits, perhaps after a minus sign. -/
def plainInteger? : List Char → Option Int
  | '-' :: digits => (plainNatural? digits).map fun size => -(size : Int)
  | digits => (plainNatural? digits).map fun size => (size : Int)

/-- Whether the integer at the start of a text takes too many characters, its sign among them. -/
def isOverlong (text : List Char) : Bool :=
  let digits := dropMark ['-'] text
  let sign := text.length - digits.length
  digits.head?.any isLeadingDigit && maxDigits < sign + (digits.takeWhile isAsciiDigit).length

/-- A text after zeros and low lines, the last of which is given.  If the text goes on with a digit
or a minus sign, what came before is dropped; one character of it stays before a point, and at the
end of the text. -/
def afterZeros? (last : Char) : List Char → Option (List Char)
  | [] => some [last]
  | character :: rest =>
    if character = '0' ∨ character = '_' then afterZeros? character rest
    else if character = '-' ∨ isLeadingDigit character then some (character :: rest)
    else if character = '.' then some (last :: character :: rest)
    else none

/-- A text that starts with a digit, without the zeros at its start. -/
def dropZeros? : List Char → Option (List Char)
  | [] => none
  | first :: rest =>
    if first = '0' then afterZeros? first rest
    else if isLeadingDigit first then some (first :: rest)
    else none

/-- A text without its first point and the zeros after it, if nothing else follows the point. -/
def dropZeroFraction (text : List Char) : List Char :=
  match text.dropWhile (· != '.') with
  | _ :: first :: zeros =>
    if (first :: zeros).all (· == '0') then text.takeWhile (· != '.') else text
  | _ => text

/-- A text of digits in its plain form. -/
def plainDigits? (text : List Char) : Option (List Char) := do
  let digits := dropZeroFraction (← dropZeros? text)
  return (dropLowLines? digits).getD digits

/-- A text that may denote an integer in its plain form: without blanks around it, a plus sign,
zeros at the start, zeros after a point, and low lines between digits. -/
def plainForm? (text : List Char) : Option (List Char) :=
  match trim isWhiteSpace text with
  | '-' :: digits => (plainDigits? digits).map ('-' :: ·)
  | '+' :: digits => if digits.head? = some '-' then none else plainDigits? digits
  | digits => plainDigits? digits

/-- The integer that a text denotes. -/
def integerOfText (text : List Char) : Except FieldFault Int :=
  let denoted (text : List Char) : Option Int :=
    if isOverlong text then none else plainInteger? text
  if isOverlong text then
    .error .integerParsingSize
  else
    ((plainInteger? text).or ((plainForm? text).bind denoted)).elim (.error .integerParsing) .ok

/-! ## Binary64 numbers -/

/-- The sign at the start of a text, and the text after it. -/
def splitSign : List Char → Bool × List Char
  | '-' :: rest => (true, rest)
  | '+' :: rest => (false, rest)
  | text => (false, text)

/-- A text of digits as the number it denotes; it may be empty. -/
def plainValue? (digits : List Char) : Option Nat :=
  if digits.all isAsciiDigit then some (digitsValue digits) else none

/-- The exponent after a mantissa: nothing, or a letter E and a number with or without a sign. -/
def exponentOf? : List Char → Option Int
  | [] => some 0
  | _ :: text => do
    let (negative, digits) := splitSign text
    if digits.isEmpty then none
    let size : Int := ← plainValue? digits
    return if negative then -size else size

/-- The size of the number that a decimal text denotes: digits around a point, of which those on one
side may be missing, and an exponent. -/
def decimalSize? (text : List Char) : Option Binary64 := do
  let isExponentMark (character : Char) : Bool := character.toLower == 'e'
  let mantissa := text.takeWhile (!isExponentMark ·)
  let exponent ← exponentOf? (text.dropWhile (!isExponentMark ·))
  let whole := mantissa.takeWhile (· != '.')
  let places := (mantissa.dropWhile (· != '.')).drop 1
  if whole.isEmpty ∧ places.isEmpty then none
  let digits ← plainValue? (whole ++ places)
  return Number.nearestDecimal digits (exponent - places.length)

/-- The size of the number that a text without sign denotes. -/
def realSize? (text : List Char) : Option Binary64 :=
  match (String.ofList text).toLower with
  | "inf" | "infinity" => some .infinity
  | "nan" => some .undefined
  | _ => decimalSize? text

/-- The number that a text denotes. -/
def realOfText? (text : List Char) : Option Binary64 := do
  let (negative, size) := splitSign text
  let value ← realSize? size
  return if negative then -value else value

/-- The number that a text denotes, perhaps between blanks, or else with low lines in it. -/
def real? (text : List Char) : Option Binary64 :=
  (realOfText? (trim isWhiteSpace text)).or ((dropLowLines? text).bind realOfText?)

end DiffReview.Field
