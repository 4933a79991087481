import DiffReview.Change
import DiffReview.Comment
import DiffReview.Json.Basic

/-!
# Review payloads

What is posted to a pull request: a summary, and the most severe comments at their lines.
Comments of equal severity keep their order.
-/

namespace DiffReview.GitHub

/-- How many comments are posted unless another number is given. -/
def defaultMaxComments : Int := 30

/-- The sign before the comments of a severity. -/
def marker : Severity → String
  | .error => "❌"
  | .warning => "⚠️"
  | .info => "ℹ️"

/-- The text of a comment as it is posted. -/
def formatComment (comment : Comment) : String :=
  s!"{marker comment.severity} **{comment.severity.name.toUpper}** ({comment.source})\n\n" ++
    comment.body

/-- The comments, the most severe first. -/
def ranked (comments : List Comment) : List Comment :=
  Severity.all.reverse.flatMap fun severity =>
    comments.filter fun comment => comment.severity == severity

/-- How many of some items are kept; a negative number tells how many are left out. -/
def keptCount (limit : Int) (count : Nat) : Nat :=
  if 0 ≤ limit then min limit.toNat count else count - limit.natAbs

/-- The comments that are posted. -/
def selected (maxComments : Int) (comments : List Comment) : List Comment :=
  (ranked comments).take (keptCount maxComments comments.length)

/-- What is said about a review of which some comments are posted. -/
def summary (posted total : Nat) : String :=
  let truncation :=
    if posted < total then
      s!"Results truncated: showing the top {posted} of {total} comments by severity. "
    else
      ""
  truncation ++ s!"Automated code review found {total} issue(s)."

/-- A review as it is posted. -/
structure Payload where
  /-- The revision that was reviewed. -/
  commit : String
  /-- What is said about the review. -/
  body : String
  /-- The comments at their lines. -/
  comments : List Comment
deriving DecidableEq, Repr

namespace Payload

/-- The payload for the comments on a change. -/
def ofComments (maxComments : Int) (change : Change) (comments : List Comment) : Payload :=
  let posted := selected maxComments comments
  { commit := change.head
    body := summary posted.length comments.length
    comments := posted }

/-- A comment as a part of the payload. -/
def commentJson (comment : Comment) : Json :=
  .ofMembers
    [("path", comment.filename), ("line", comment.line), ("side", "RIGHT"),
      ("body", formatComment comment)]

/-- The payload as JSON. -/
def json (payload : Payload) : Json :=
  .ofMembers
    [("commit_id", payload.commit), ("body", payload.body), ("event", "COMMENT"),
      ("comments", .array (payload.comments.map commentJson))]

end Payload

end DiffReview.GitHub
