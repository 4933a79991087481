import DiffReview.Text.Blank
import DiffReview.Text.LetterCase

/-!
# Review comments

A comment is a finding at one line of the new revision of a file, with a severity and the name of
the reviewer that made it.
-/

namespace DiffReview

/-- How serious a finding is. -/
inductive Severity
  | info
  | warning
  | error
deriving DecidableEq, Repr, Inhabited

namespace Severity

/-- All severities, the least serious first. -/
def all : List Severity := [info, warning, error]

/-- The more serious, the higher. -/
def rank : Severity → Nat
  | info => 0
  | warning => 1
  | error => 2

/-- The word for a severity. -/
def name : Severity → String
  | info => "info"
  | warning => "warning"
  | error => "error"

/-- The severity that a text names, disregarding case and surrounding blanks. -/
def ofText? (text : String) : Option Severity :=
  let word := Text.lower (Text.trim Text.isBlank text.toList)
  all.find? fun severity => severity.name.toList == word

end Severity

/-- A finding at one line of the new revision of a file. -/
structure Comment where
  /-- The path of the file. -/
  filename : String
  /-- The line number. -/
  line : Int
  /-- What is wrong, and what to do about it. -/
  body : String
  /-- How serious the finding is. -/
  severity : Severity := .info
  /-- The reviewer that made the finding. -/
  source : String := ""
deriving DecidableEq, Repr, Inhabited

namespace Comment

/-- The file and line that a comment speaks of. -/
def location (comment : Comment) : String × Int :=
  (comment.filename, comment.line)

end Comment

end DiffReview
