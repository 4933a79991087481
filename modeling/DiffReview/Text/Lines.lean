/-!
# Lines

A text is cut at line feeds only, after each carriage return directly before a line feed has been
dropped.
-/

namespace DiffReview.Text

/-- Each carriage return directly before a line feed is dropped. -/
def unifyNewlines : List Char → List Char
  | [] => []
  | [character] => [character]
  | character :: next :: rest =>
    if character = '\r' ∧ next = '\n' then
      unifyNewlines (next :: rest)
    else
      character :: unifyNewlines (next :: rest)

/-- The lines of a text. -/
def lines (text : List Char) : List (List Char) :=
  (unifyNewlines text).splitOn '\n'

/-- The lines joined by line feeds. -/
def joinLines (rows : List (List Char)) : List Char :=
  ['\n'].intercalate rows

/-- The text before and after the first occurrence of `mark`. -/
def cutAt? (mark : List Char) : List Char → Option (List Char × List Char)
  | [] => (mark.isPrefixOf? []).map fun after => ([], after)
  | character :: rest =>
    match mark.isPrefixOf? (character :: rest) with
    | some after => some ([], after)
    | none => (cutAt? mark rest).map fun (before, after) => (character :: before, after)

/-- The text without `mark` at its start, or unchanged if it does not start with it. -/
def dropMark (mark text : List Char) : List Char :=
  (mark.isPrefixOf? text).getD text

end DiffReview.Text
