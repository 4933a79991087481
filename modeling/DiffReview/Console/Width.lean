import DiffReview.Console.Width.Table

/-!
# The width of text

The width of a text is the number of cells that it fills on a console.  A joiner hides the character
after it, and the sign for a coloured picture widens the character before it.
-/

namespace DiffReview.Console

/-- Whether a code point is in one of some runs. -/
def isInRuns (runs : List (Nat × Nat)) (code : Nat) : Bool :=
  runs.any fun (first, last) => first ≤ code && code ≤ last

/-- Whether a character is a control character. -/
def isControl (code : Nat) : Bool :=
  code < 0x20 || (0x7F ≤ code && code < 0xA0)

/-- How many cells a character fills by itself. -/
def characterWidth (character : Char) : Nat :=
  let code := character.toNat
  if isControl code then 0
  else if code < 0x300 then 1
  else if isInRuns combiningRuns code then 0
  else if isInRuns wideRuns code then 2
  else 1

/-- The character that joins pictures. -/
def joiner : Char := '\u200D'

/-- The sign that the character before it is a coloured picture. -/
def coloured : Char := '\uFE0F'

/-- The sign that the character before it is a plain sign. -/
def uncoloured : Char := '\uFE0E'

/-- How much wider a character is as a coloured picture. -/
def widening (character : Char) : Nat :=
  if isInRuns widenedRuns character.toNat then 1 else 0

/-- The width of a text after a character that may yet be widened. -/
def widthAfter : Option Char → List Char → Nat
  | _, [] => 0
  | last, [character] =>
    if character = joiner then 0
    else if character = coloured then (last.map widening).getD 0
    else characterWidth character
  | last, character :: next :: rest =>
    if character = joiner then
      widthAfter last rest
    else if character = coloured then
      (last.map widening).getD 0 + widthAfter none (next :: rest)
    else
      let size := characterWidth character
      size + widthAfter (if size = 0 then last else some character) (next :: rest)

/-- The width of a text. -/
def width (text : List Char) : Nat :=
  widthAfter none text

/-! ## Text of a given width -/

/-- As much of a text as fits in some number of cells; half of a wide character becomes a space. -/
def cut : Nat → List Char → List Char
  | _, [] => []
  | room, character :: rest =>
    if characterWidth character ≤ room then
      character :: cut (room - characterWidth character) rest
    else
      List.replicate room ' '

/-- A text filled up with spaces, or cut, to a width. -/
def fit (size : Nat) (text : List Char) : List Char :=
  if width text ≤ size then
    text ++ List.replicate (size - width text) ' '
  else
    cut size text

/-- A text, cut if it is wider than it may be. -/
def crop (size : Nat) (text : List Char) : List Char :=
  if width text ≤ size then text else cut size text

/-- A text, cut and ended with an ellipsis if it is wider than it may be. -/
def abridge (size : Nat) (text : List Char) : List Char :=
  if width text ≤ size then text else fit (size - 1) text ++ ['…']

end DiffReview.Console
