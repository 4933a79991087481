import DiffReview.Text.Blank
import DiffReview.Text.LetterCase

/-!
# Significant words

The words by which two comments are compared.  A text is put in small letters, all but ASCII
letters, digits and blanks is deleted, so that the parts of a word around a deleted character grow
together, and the words of four or more characters are kept.
-/

namespace DiffReview

open Text

/-- The texts without repetition, in increasing order. -/
def distinctSorted (texts : List String) : List String :=
  texts.eraseDups.mergeSort fun left right => decide (left ≤ right)

/-- The fewest characters of a significant word. -/
def minimumWordLength : Nat := 4

/-- The letters `a` to `z` and the digits `0` to `9`. -/
def isPlain (character : Char) : Bool :=
  character.isLower || character.isDigit

/-- A text in small letters, without all but plain characters and blanks. -/
def normalize (text : List Char) : List Char :=
  (lower text).filter fun character => isPlain character || isBlank character

/-- The significant words of a text, as a set: without repetition and in increasing order. -/
def significantWords (text : String) : List String :=
  let long := (words (normalize text.toList)).filter fun word => minimumWordLength ≤ word.length
  distinctSorted (long.map String.ofList)

end DiffReview
