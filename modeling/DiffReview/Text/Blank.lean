/-!
# Blank characters

Two sets of blank characters are in use.  Diff text and patterns treat the four information
separators as blank; the fields of a chat reply are trimmed of the White_Space property alone.
-/

namespace DiffReview.Text

/-- The characters with the Unicode property White_Space. -/
def isWhiteSpace (character : Char) : Bool :=
  let code := character.toNat
  (9 ≤ code && code ≤ 13) || code == 0x20 || code == 0x85 || code == 0xA0 || code == 0x1680 ||
    (0x2000 ≤ code && code ≤ 0x200A) || code == 0x2028 || code == 0x2029 || code == 0x202F ||
    code == 0x205F || code == 0x3000

/-- White space together with the information separators U+001C to U+001F. -/
def isBlank (character : Char) : Bool :=
  isWhiteSpace character || (0x1C ≤ character.toNat && character.toNat ≤ 0x1F)

/-- A text without the leading characters that satisfy `drop`. -/
def trimStart (drop : Char → Bool) (text : List Char) : List Char :=
  text.dropWhile drop

/-- A text without the trailing characters that satisfy `drop`. -/
def trimEnd (drop : Char → Bool) (text : List Char) : List Char :=
  (text.reverse.dropWhile drop).reverse

/-- A text without the characters at both ends that satisfy `drop`. -/
def trim (drop : Char → Bool) (text : List Char) : List Char :=
  trimEnd drop (trimStart drop text)

/-- Nothing but blank characters. -/
def isBlankText (text : List Char) : Bool :=
  text.all isBlank

/-- A text, unless it is missing or empty. -/
def present? (text : Option String) : Option String :=
  text.filter fun text => !text.isEmpty

/-- The maximal runs of characters that are not blank, in order. -/
def words (text : List Char) : List (List Char) :=
  (text.splitOnP isBlank).filter fun word => !word.isEmpty

theorem isBlank_of_isWhiteSpace {character : Char} (white : isWhiteSpace character = true) :
    isBlank character = true := by
  simp [isBlank, white]

end DiffReview.Text
