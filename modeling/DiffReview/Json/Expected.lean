import DiffReview.Json.Token

/-!
# Where a value is expected

Text that does not start with a value is refused with a message that tells the place, by its line,
by its column and by the number of characters before it.  Lines and columns count from one.
-/

namespace DiffReview.Json

/-- The place after some characters. -/
def placeAfter (characters : List Char) : String :=
  let line := characters.count '\n' + 1
  let column := (characters.reverse.takeWhile (· ≠ '\n')).length + 1
  s!"line {line} column {column} (char {characters.length})"

/-- The wording of the error that a text has no value after the spacing at its start. -/
def valueMissing (text : List Char) : String :=
  "Expecting value: " ++ placeAfter (text.takeWhile fun character => isSpacing (.scalar character))

end DiffReview.Json
