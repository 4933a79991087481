import DiffReview.Text.Word.Table

/-!
# Word characters

A word is made of letters and numbers of any script and the low line.
-/

namespace DiffReview.Text

/-- The letters `a` to `z` and `A` to `Z` and the digits `0` to `9`. -/
def isAsciiAlphanumeric (character : Char) : Bool :=
  character.isAlpha || character.isDigit

/-- A letter or a character with a numeric value. -/
def isAlphanumeric (character : Char) : Bool :=
  let code := character.toNat
  if code < 0x80 then
    isAsciiAlphanumeric character
  else
    alphanumericRanges.any fun (first, last) => first ≤ code && code ≤ last

/-- A letter, a character with a numeric value, or a low line. -/
def isWordCharacter (character : Char) : Bool :=
  character == '_' || isAlphanumeric character

end DiffReview.Text
