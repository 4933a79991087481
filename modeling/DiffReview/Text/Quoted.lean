import DiffReview.Text.Hexadecimal
import DiffReview.Text.Quoted.Table

/-!
# Quoted text

A name is shown between quotes: single ones, or double ones if the name has a single quote and no
double one.  What could be misread is escaped.
-/

namespace DiffReview.Text

/-- Whether a character is shown as it is. -/
def isShownPlain (character : Char) : Bool :=
  let code := character.toNat
  0x20 ≤ code && !(hiddenRanges.any fun (first, last) => first ≤ code && code ≤ last)

/-- A character that is not shown as it is, by its number. -/
def escapedCode (code : Nat) : List Char :=
  if code < 0x100 then
    '\\' :: 'x' :: hexDigits 2 code
  else if code < 0x10000 then
    '\\' :: 'u' :: hexDigits 4 code
  else
    '\\' :: 'U' :: hexDigits 8 code

/-- A character as it stands between the given quotes. -/
def quotedCharacter (quote character : Char) : List Char :=
  if character = quote ∨ character = '\\' then ['\\', character]
  else if character = '\n' then ['\\', 'n']
  else if character = '\r' then ['\\', 'r']
  else if character = '\t' then ['\\', 't']
  else if isShownPlain character then [character]
  else escapedCode character.toNat

/-- The quotes that a text is put between. -/
def quoteFor (text : List Char) : Char :=
  if text.contains '\'' && !text.contains '"' then '"' else '\''

/-- A text between quotes. -/
def quoted (text : List Char) : List Char :=
  let quote := quoteFor text
  quote :: text.flatMap (quotedCharacter quote) ++ [quote]

end DiffReview.Text
