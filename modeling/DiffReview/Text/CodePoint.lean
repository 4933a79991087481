/-!
# Code points

Text from outside may hold surrogates that stand alone, which no `Char` can be.  Such text is a list
of code points until it is known to be sound.
-/

namespace DiffReview.Text

/-- A character or a surrogate. -/
inductive CodePoint
  /-- A character. -/
  | scalar (character : Char)
  /-- The surrogate that lies this far behind the first one. -/
  | surrogate (offset : Fin 0x800)
deriving DecidableEq, Repr

namespace CodePoint

/-- The code point of a number. -/
def ofNat? (code : Nat) : Option CodePoint :=
  if high : 0xD800 ≤ code ∧ code < 0xE000 then
    some (.surrogate ⟨code - 0xD800, by omega⟩)
  else if code < 0x110000 then
    some (.scalar (Char.ofNat code))
  else
    none

/-- The character that a code point is, if it is one. -/
def character? : CodePoint → Option Char
  | scalar character => some character
  | surrogate _ => none

/-- Whether a code point is a character of some class. -/
def isScalarIn (accepts : Char → Bool) : CodePoint → Bool
  | scalar character => accepts character
  | surrogate _ => false

end CodePoint

/-- The code points of a text. -/
def codePoints (text : List Char) : List CodePoint :=
  text.map .scalar

/-- The text of some code points, if no surrogate is among them. -/
def soundText? (points : List CodePoint) : Option (List Char) :=
  points.mapM CodePoint.character?

/-- The character that stands for what is no character. -/
def replacementCharacter : Char := Char.ofNat 0xFFFD

/-- The text of some code points, with a replacement character for each surrogate. -/
def patchedText (points : List CodePoint) : List Char :=
  points.map fun point => point.character?.getD replacementCharacter

end DiffReview.Text
