import DiffReview.Text.Blank
import DiffReview.Text.Decimal

/-!
# Changes

A change is a pull request on a hosting platform, or the part of one that came after its last
review.
-/

namespace DiffReview

/-- A pull request, with the revisions to compare. -/
structure Change where
  /-- Who owns the repository. -/
  owner : String
  /-- The name of the repository. -/
  repository : String
  /-- The number of the pull request. -/
  number : Int
  /-- The revision to review. -/
  head : String
  /-- The revision that was reviewed last. -/
  previous : Option String := none
  /-- The title of the pull request. -/
  title : Option String := none
  /-- The text of the pull request. -/
  description : Option String := none
  /-- The branch that the pull request goes to. -/
  baseBranch : Option String := none
  /-- The branch that the pull request comes from. -/
  headBranch : Option String := none
deriving DecidableEq, Repr

namespace Change

/-- The number of the pull request in text, unless it has too many digits. -/
def numberText (change : Change) : Except Text.DigitLimitError String :=
  Text.integerText change.number

/-- The short name of a change. -/
def slug (change : Change) : Except Text.DigitLimitError String := do
  let number ← change.numberText
  return s!"{change.owner}/{change.repository}#{number}"

/-- The revision that was reviewed last, unless it is missing or empty. -/
def previous? (change : Change) : Option String :=
  Text.present? change.previous

/-- Whether only the part after the last review is to be reviewed. -/
def isIncremental (change : Change) : Bool :=
  change.previous?.isSome

end Change

end DiffReview
