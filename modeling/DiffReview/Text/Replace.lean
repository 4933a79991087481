/-!
# Replacing parts of text
-/

namespace DiffReview.Text

/-- A text after its first characters, as many as given, in which each occurrence of `part` is
replaced from left to right. -/
def replaceFrom (part replacement : List Char) : Nat → List Char → List Char
  | _, [] => []
  | skipped + 1, _ :: rest => replaceFrom part replacement skipped rest
  | 0, character :: rest =>
    if part.isPrefixOf (character :: rest) then
      replacement ++ replaceFrom part replacement (part.length - 1) rest
    else
      character :: replaceFrom part replacement 0 rest

/-- A text in which each occurrence of `part` is replaced.  An empty part occurs before each
character and at the end. -/
def replaceAll (part replacement text : List Char) : List Char :=
  if part.isEmpty then
    text.flatMap (fun character => replacement ++ [character]) ++ replacement
  else
    replaceFrom part replacement 0 text

end DiffReview.Text
