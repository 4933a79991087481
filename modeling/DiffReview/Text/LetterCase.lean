import DiffReview.Text.LetterCase.Table

/-!
# Letter case

Full case mappings, in which one character may become several, and the comparison of a text with an
ASCII word that disregards case.  A capital sigma becomes the same small letter wherever it stands.
-/

namespace DiffReview.Text

/-- What the first run that holds a code point maps it to. -/
def applyRuns? (runs : List CaseRun) (code : Nat) : Option Nat :=
  runs.findSome? fun run => run.image? code

/-- A character in small letters; the capital I with a dot becomes an i and a combining dot. -/
def lowerCharacter (character : Char) : List Char :=
  let code := character.toNat
  if code < 0x80 then
    [character.toLower]
  else if code = 0x130 then
    ['i', Char.ofNat 0x307]
  else
    [((applyRuns? lowerRuns code).map Char.ofNat).getD character]

/-- A character in capital letters. -/
def upperCharacter (character : Char) : List Char :=
  let code := character.toNat
  if code < 0x80 then
    [character.toUpper]
  else
    match upperExpansions.lookup code with
    | some expansion => expansion.map Char.ofNat
    | none => [((applyRuns? upperRuns code).map Char.ofNat).getD character]

/-- A text in small letters. -/
def lower (text : List Char) : List Char :=
  text.flatMap lowerCharacter

/-- A text in capital letters. -/
def upper (text : List Char) : List Char :=
  text.flatMap upperCharacter

/-- Whether a character is the given small ASCII letter or other ASCII character, disregarding
case.  Three letters have companions outside ASCII: the dotless and the dotted i, the Kelvin sign
and the long s. -/
def matchesFolded (letter character : Char) : Bool :=
  character.toLower == letter ||
    (letter == 'i' && (character.toNat == 0x130 || character.toNat == 0x131)) ||
    (letter == 'k' && character.toNat == 0x212A) ||
    (letter == 's' && character.toNat == 0x17F)

/-- Whether a text is the given word of small ASCII letters, disregarding case. -/
def equalsFolded : List Char → List Char → Bool
  | [], [] => true
  | letter :: letters, character :: characters =>
    matchesFolded letter character && equalsFolded letters characters
  | _, _ => false

end DiffReview.Text
