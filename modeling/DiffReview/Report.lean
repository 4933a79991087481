import DiffReview.Comment
import DiffReview.Console.Block

/-!
# Reports

The comments of a review as they are shown on a console: a title that counts them, and a table, or a
line that says that there are none.
-/

namespace DiffReview.Report

open Console (Block Span)

/-- The style of a severity. -/
def style : Severity → String
  | .error => "bold red"
  | .warning => "yellow"
  | .info => "cyan"

/-- The title above some number of comments. -/
def title (count : Nat) : List Span :=
  [{ text := "Code review", style := some "bold cyan" }, { text := s!": {count} comment(s)" }]

/-- The columns of the table. -/
def columns : List String := ["Severity", "Location", "Source", "Message"]

/-- The row of a comment. -/
def row (comment : Comment) : List Span :=
  [{ text := comment.severity.name, style := some (style comment.severity) },
    { text := s!"{comment.filename}:{comment.line}" }, { text := comment.source },
    { text := comment.body }]

/-- What is shown for some comments. -/
def blocks (comments : List Comment) : List Block :=
  let body :=
    if comments.isEmpty then
      .paragraph [{ text := "No actionable suggestions.", style := some "green" }]
    else
      .table columns (comments.map row)
  [.rule (title comments.length), body]

/-- What some comments look like on a console of the given width. -/
def render (width : Nat) (comments : List Comment) : String :=
  Console.layOut width (blocks comments)

end DiffReview.Report
