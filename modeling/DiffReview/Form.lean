import DiffReview.Text.Percent

/-!
# Forms

A form is a list of fields, each a name and a value.  In its text, fields are separated by
ampersands; a plus sign stands for a space, and a percent sign with two hexadecimal digits for a
byte.  Fields without a value do not count.
-/

namespace DiffReview.Form

open Text

/-- The text that a name or value stands for. -/
def unescape (text : List Char) : List Char :=
  Percent.decode (text.map fun character => if character = '+' then ' ' else character)

/-- The field that a text denotes: a name, an equals sign and a value that is not empty. -/
def field? (text : List Char) : Option (List Char × List Char) :=
  match text.dropWhile (· != '=') with
  | _ :: first :: rest => some (unescape (text.takeWhile (· != '=')), unescape (first :: rest))
  | _ => none

/-- The fields of a form, in order. -/
def fields (text : List Char) : List (List Char × List Char) :=
  (text.splitOn '&').filterMap field?

/-- The first value of a name. -/
def value? (name : String) (text : List Char) : Option (List Char) :=
  (fields text).lookup name.toList

end DiffReview.Form
