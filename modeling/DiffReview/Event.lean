/-!
# Log events

Everything that is worth a line in the log, with its level and its wording.  What has to be written
out first, such as a limit on time, is a part of the event as a text.
-/

namespace DiffReview

/-- How urgent a log line is. -/
inductive LogLevel
  | debug
  | info
  | warning
  | error
deriving DecidableEq, Repr

namespace LogLevel

/-- The word for a level. -/
def name : LogLevel → String
  | debug => "DEBUG"
  | info => "INFO"
  | warning => "WARNING"
  | error => "ERROR"

end LogLevel

/-- The word for a truth value in a log line. -/
def truthWord (value : Bool) : String :=
  if value then "True" else "False"

/-- Something worth a line in the log. -/
inductive Event
  /-- Lines of a diff could not be placed. -/
  | linesSkipped (count : Nat)
  /-- The rules have been applied to a diff. -/
  | rulesApplied (comments rules : Nat)
  /-- Checking limits failed. -/
  | limitsFailed (reason : String)
  /-- The chat model is asked for JSON. -/
  | jsonModeEnabled
  /-- No file of a diff is worth showing to the model. -/
  | nothingReviewable
  /-- The model did not answer in time. -/
  | modelTimedOut (limit : String)
  /-- Asking the model failed. -/
  | modelFailed (reason : String)
  /-- The reply is no JSON. -/
  | replyMalformed
  /-- The reply has no list of comments. -/
  | replyWithoutComments
  /-- Entries of the reply were not accepted. -/
  | entriesDiscarded (count : Nat)
  /-- A layer returned comments. -/
  | layerReturned (layer : String) (comments : Nat)
  /-- A layer did not finish in time. -/
  | layerTimedOut (layer limit : String)
  /-- A layer failed. -/
  | layerRaised (layer reason : String)
  /-- All layers are done. -/
  | layersMerged (layers collected kept : Nat)
  /-- A diff adds no line. -/
  | noAdditions
  /-- A change has been reviewed. -/
  | issuesFound (count : Nat) (slug : String)
  /-- The whole diff of a change is fetched. -/
  | fetchingAll (slug : String)
  /-- The diff since the last review of a change is fetched. -/
  | fetchingSince (previous head slug : String)
  /-- The platform answered with an error. -/
  | platformError (status : Int) (excerpt : String)
  /-- Comments have been posted, perhaps not all. -/
  | commentsPosted (posted total : Nat) (slug : String)
  /-- A diff is computed in a local clone. -/
  | computingDiff (revisions path : String)
  /-- The local clone cannot be used. -/
  | localDiffDisabled (reason : String)
  /-- The model cannot be asked without credentials. -/
  | credentialsMissing
  /-- An event has arrived. -/
  | eventReceived (action : String)
  /-- An event does not say which change it is about. -/
  | changeMissing
  /-- The review of a change is complete. -/
  | reviewCompleted (slug : String) (comments : Nat)
  /-- The review of a change failed in a way that was to be expected. -/
  | reviewFailed (slug code : String) (retryable : Bool) (reason : String)
  /-- The review of a change failed in an unexpected way. -/
  | reviewCrashed (slug : String)
  /-- Answering a request failed because of another service. -/
  | dependencyFailed (code : String) (retryable : Bool) (reason : String)

namespace Event

/-- How urgent an event is. -/
def level : Event → LogLevel
  | linesSkipped _ | rulesApplied _ _ | jsonModeEnabled | nothingReviewable | entriesDiscarded _
  | layerReturned _ _ => .debug
  | layersMerged .. | noAdditions | issuesFound _ _ | fetchingAll _ | fetchingSince ..
  | commentsPosted .. | computingDiff _ _ | eventReceived _ | reviewCompleted _ _ => .info
  | limitsFailed _ | modelTimedOut _ | modelFailed _ | replyMalformed | replyWithoutComments
  | layerTimedOut _ _ | layerRaised _ _ | credentialsMissing => .warning
  | platformError _ _ | localDiffDisabled _ | changeMissing | reviewFailed .. | reviewCrashed _
  | dependencyFailed .. => .error

/-- The wording of an event. -/
def message : Event → String
  | linesSkipped count => s!"Diff parser skipped {count} unrecognised line(s)"
  | rulesApplied comments rules =>
    s!"Pattern layer produced {comments} comment(s) with {rules} rule(s)"
  | limitsFailed reason => s!"Heuristic layer failed: {reason}"
  | jsonModeEnabled => "JSON mode enabled for AI review layer."
  | nothingReviewable => "Nothing reviewable in diff, skipping AI call"
  | modelTimedOut limit => s!"AI review call timed out after {limit}s"
  | modelFailed reason => s!"AI review layer failed: {reason}"
  | replyMalformed => "Failed to parse AI review response as JSON"
  | replyWithoutComments => "AI review response has no 'comments' array"
  | entriesDiscarded count => s!"Discarded {count} invalid AI comment(s)"
  | layerReturned layer comments => s!"Layer '{layer}' produced {comments} comment(s)"
  | layerTimedOut layer limit => s!"Layer '{layer}' timed out after {limit}s"
  | layerRaised layer reason => s!"Layer '{layer}' raised: {reason}"
  | layersMerged layers collected kept =>
    s!"Review pipeline ran {layers} layer(s): {collected} comment(s) collected, " ++
      s!"{kept} after de-duplication"
  | noAdditions => "No additions found, skipping analysis"
  | issuesFound count slug => s!"Found {count} issue(s) in {slug}"
  | fetchingAll slug => s!"Fetching full diff for {slug}"
  | fetchingSince previous head slug =>
    s!"Fetching incremental diff {previous}...{head} for {slug}"
  | platformError status excerpt => s!"GitHub API error: {status} {excerpt}"
  | commentsPosted posted total slug =>
    let rest := if posted < total then s!" ({total} total)" else ""
    s!"Posted {posted} review comment(s) to {slug}{rest}"
  | computingDiff revisions path => s!"Computing local diff {revisions} in {path}"
  | localDiffDisabled reason => s!"Local diff fetcher disabled: {reason}"
  | credentialsMissing =>
    "AI layer enabled but no LLM credentials configured; skipping it"
  | eventReceived action => s!"Received pull_request '{action}' event"
  | changeMissing => "Webhook payload is missing pull request data"
  | reviewCompleted slug comments => s!"Review of {slug} completed with {comments} comment(s)"
  | reviewFailed slug code retryable reason =>
    s!"Review of {slug} failed [{code}, retryable={truthWord retryable}]: {reason}"
  | reviewCrashed slug => s!"Review of {slug} failed unexpectedly"
  | dependencyFailed code retryable reason =>
    s!"Upstream failure [{code}, retryable={truthWord retryable}]: {reason}"

end Event

end DiffReview
