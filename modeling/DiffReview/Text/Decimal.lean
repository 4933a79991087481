/-!
# Decimal numbers in text

Decimal digits are those of every script, each run of ten consecutive code points counting from
zero to nine.  A number of more than `maxDigits` digits is neither read nor written.
-/

namespace DiffReview.Text

/-- The code points of the digits zero, in increasing order. -/
def zeroDigits : List Nat :=
  [0x30, 0x660, 0x6F0, 0x7C0, 0x966, 0x9E6, 0xA66, 0xAE6, 0xB66, 0xBE6, 0xC66, 0xCE6, 0xD66,
    0xDE6, 0xE50, 0xED0, 0xF20, 0x1040, 0x1090, 0x17E0, 0x1810, 0x1946, 0x19D0, 0x1A80, 0x1A90,
    0x1B50, 0x1BB0, 0x1C40, 0x1C50, 0xA620, 0xA8D0, 0xA900, 0xA9D0, 0xA9F0, 0xAA50, 0xABF0,
    0xFF10, 0x104A0, 0x10D30, 0x11066, 0x110F0, 0x11136, 0x111D0, 0x112F0, 0x11450, 0x114D0,
    0x11650, 0x116C0, 0x11730, 0x118E0, 0x11950, 0x11C50, 0x11D50, 0x11DA0, 0x16A60, 0x16AC0,
    0x16B50, 0x1D7CE, 0x1D7D8, 0x1D7E2, 0x1D7EC, 0x1D7F6, 0x1E140, 0x1E2F0, 0x1E950, 0x1FBF0]

/-- The value of a decimal digit of any script. -/
def digitValue? (character : Char) : Option Nat :=
  let code := character.toNat
  (zeroDigits.find? fun first => first ≤ code && code < first + 10).map (code - ·)

/-- Whether a character is a decimal digit of any script. -/
def isDigit (character : Char) : Bool :=
  (digitValue? character).isSome

/-- The most digits that a number may have in text. -/
def maxDigits : Nat := 4300

/-- A number with more digits than text may hold. -/
inductive DigitLimitError
  /-- Reading met a run of this many digits. -/
  | reading (digits : Nat)
  /-- Writing would need too many digits. -/
  | writing
deriving DecidableEq, Repr

namespace DigitLimitError

/-- The wording of the error. -/
def message : DigitLimitError → String
  | reading digits =>
    s!"Exceeds the limit ({maxDigits} digits) for integer string conversion: value has {digits} " ++
      "digits; use sys.set_int_max_str_digits() to increase the limit"
  | writing =>
    s!"Exceeds the limit ({maxDigits} digits) for integer string conversion; " ++
      "use sys.set_int_max_str_digits() to increase the limit"

end DigitLimitError

/-- The number that a run of digits denotes; other characters count as zero. -/
def digitsValue (digits : List Char) : Nat :=
  digits.foldl (fun value digit => 10 * value + (digitValue? digit).getD 0) 0

/-- The number that a run of digits denotes, unless the run is too long. -/
def readDigits (digits : List Char) : Except DigitLimitError Nat :=
  if maxDigits < digits.length then
    .error (.reading digits.length)
  else
    .ok (digitsValue digits)

/-- The decimal text of a number, unless it is too long. -/
def writeNumber (number : Nat) : Except DigitLimitError (List Char) :=
  let digits := Nat.toDigits 10 number
  if maxDigits < digits.length then .error .writing else .ok digits

/-- The decimal text of an integer, unless it is too long; a sign is no digit. -/
def writeInteger : Int → Except DigitLimitError (List Char)
  | .ofNat number => writeNumber number
  | .negSucc number => do
    let digits ← writeNumber (number + 1)
    return '-' :: digits

/-- The text of an integer, unless it is too long. -/
def integerText (number : Int) : Except DigitLimitError String :=
  (writeInteger number).map String.ofList

end DiffReview.Text
