import DiffReview.Diff.Reader
import DiffReview.Pipeline

/-!
# Reviewing changes

A service reviews the text of a diff, or a change: it then fetches the diff of the change and posts
the comments, if there are any.  A diff that adds no line is not shown to any layer.
-/

namespace DiffReview

/-- How the diff of a change is obtained. -/
abbrev Fetcher := Change → Action String

/-- How comments are posted to a change. -/
abbrev Notifier := Change → List Comment → Action Unit

/-- Layers together with the ways to fetch diffs and to post comments. -/
structure Service where
  /-- The layers. -/
  layers : List Layer
  /-- How diffs are fetched, if they can be. -/
  fetcher : Option Fetcher := none
  /-- How comments are posted, if they can be. -/
  notifier : Option Notifier := none
  /-- How long a layer may take, if that is limited. -/
  limit : Option Duration := some (.fractional 60)

namespace Service

/-- The failure for lack of a notifier. -/
def notifierMissing : Failure :=
  .expected { activity := .configuration, message := "No review notifier configured" }

/-- The failure for lack of a fetcher. -/
def fetcherMissing : Failure :=
  .expected { activity := .configuration, message := "No diff fetcher configured" }

/-- The pipeline of the layers. -/
def pipeline (service : Service) : Pipeline where
  layers := service.layers
  limit := service.limit

/-- The text of a diff read, with a note on the lines that could not be placed. -/
def readDiff (text : String) : Action Diff := do
  let reading ← Action.ofDigits (Diff.read text)
  if 0 < reading.skipped then
    Action.log (.linesSkipped reading.skipped)
  return reading.diff

/-- The review of the text of a diff. -/
def analyze (service : Service) (text : String) : Action (List Comment) := do
  let diff ← readDiff text
  if diff.hasAdditions then
    service.pipeline.run diff
  else
    Action.log .noAdditions
    return []

/-- The review of a change. -/
def handle (service : Service) (change : Change) : Action (List Comment) :=
  match service.notifier, service.fetcher with
  | none, _ => Action.fail notifierMissing
  | some _, none => Action.fail fetcherMissing
  | some notify, some fetch => do
    Action.perform (.fetch change)
    let comments ← service.analyze (← fetch change)
    let slug ← Action.ofDigits change.slug
    Action.log (.issuesFound comments.length slug)
    if !comments.isEmpty then
      Action.perform (.post change comments)
      notify change comments
    return comments

end Service

end DiffReview
