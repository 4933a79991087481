import DiffReview.Layer
import DiffReview.Reply
import DiffReview.Summary

/-!
# Review by a chat model

A chat model is shown the summary of a diff and asked for comments.  It is not asked when the
summary is blank, nor when it may take no time.  Whatever it does, a review ends with comments: no
answer, a failure and an answer that cannot be read all count as none.  A review fails only if the
time for it is over and is too long to be written.
-/

namespace DiffReview

/-- What a chat model does when it is asked. -/
inductive ModelAnswer
  /-- It answers with a text, in time. -/
  | reply (content : String)
  /-- It cannot be asked. -/
  | failure (reason : String)
  /-- It does not answer in time. -/
  | silence
deriving DecidableEq, Repr

/-- A chat model with all that is needed to ask it. -/
structure ModelReviewer where
  /-- What the model answers to a question. -/
  model : Question → ModelAnswer
  /-- Whether the model has to answer with a JSON object. -/
  jsonMode : Bool := true
  /-- How long the model may take. -/
  timeout : Duration := .fractional 30
  /-- How many arrays and objects may be open at the same time in a reply, which depends on the
  machine that reads it. -/
  nesting : Nat
  /-- How much of a diff the model is shown. -/
  options : SummaryOptions := {}

namespace ModelReviewer

/-- What the model is told about its task. -/
def systemPrompt : String :=
  "You are an expert code reviewer focused on finding FUNCTIONAL problems, not style issues.

Analyze the code diff and return a JSON object with a \"comments\" array.

Each comment must have:
- \"filename\": string (file path exactly as shown after \"File:\")
- \"line\": number (the new-file line number shown before the \"|\")
- \"body\": string (concise, actionable feedback)
- \"severity\": \"info\" | \"warning\" | \"error\"

FOCUS ON:
- Bugs and logic errors (off-by-one, null handling, race conditions)
- Security vulnerabilities (injection, XSS, insecure crypto)
- Performance issues (N+1 queries, unnecessary loops, memory leaks)
- Correctness issues (wrong algorithm, broken edge cases)

IGNORE:
- console.log statements
- Hardcoded strings and secrets
- TODO/FIXME comments
- Naming conventions, code style and missing comments

Only comment on lines marked with \"+\".
Return \x7b\"comments\": []\x7d if you find no functional issues.
Respond ONLY with valid JSON, no markdown."

/-- What the model is asked to do with a summary. -/
def userPrompt (summary : String) : String :=
  "Review the following code diff and provide feedback:\n\n" ++ summary

/-- The question about a summary. -/
def question (reviewer : ModelReviewer) (summary : String) : Question where
  system := systemPrompt
  user := userPrompt summary
  jsonMode := reviewer.jsonMode

/-- What is logged when the reviewer is set up. -/
def setUpEvents (reviewer : ModelReviewer) : List Event :=
  if reviewer.jsonMode then [.jsonModeEnabled] else []

/-- What happens when the model answers a question with a text. -/
def readReply (nesting : Nat) (diff : Diff) (content : String) : List Event × List Comment :=
  match Reply.read nesting diff content with
  | .ok (comments, events) => (events, comments)
  | .error error => ([.modelFailed error.message], [])

/-- The run of a reviewer that logs, when it is done, that the time of the model is over; it fails
if the time cannot be written. -/
def overdue (reviewer : ModelReviewer) (opening : List Effect) (arrival : Arrival)
    (stopTurns : Nat) : LayerRun :=
  match reviewer.timeout.text with
  | .ok limit =>
    { opening, arrival, closing := [.modelTimedOut limit], outcome := .ok [], stopTurns }
  | .error error => { opening, arrival, outcome := .error (.digits error), stopTurns }

@[simp]
theorem opening_overdue (reviewer : ModelReviewer) (opening : List Effect) (arrival : Arrival)
    (stopTurns : Nat) : (reviewer.overdue opening arrival stopTurns).opening = opening := by
  rw [overdue]
  split <;> rfl

/-- What happens when the model is asked a question.  A failure is there before an answer could
be. -/
def ask (reviewer : ModelReviewer) (diff : Diff) (question : Question) : LayerRun :=
  match reviewer.model question with
  | .reply content =>
    let (events, comments) := readReply reviewer.nesting diff content
    { opening := [.ask question]
      arrival := .soon 8
      closing := events
      outcome := .ok comments
      stopTurns := 1 }
  | .failure reason =>
    { opening := [.ask question]
      arrival := .soon 6
      closing := [.modelFailed reason]
      outcome := .ok []
      stopTurns := 1 }
  | .silence => reviewer.overdue [.ask question] (.after reviewer.timeout) 1

/-- What happens when the reviewer has a question.  The model is not asked if its time is over
before it could be, nor if there is more time than a clock can hold. -/
def consult (reviewer : ModelReviewer) (diff : Diff) (question : Question) : LayerRun :=
  if reviewer.timeout.isNone then
    reviewer.overdue [] (.soon 2) 0
  else if reviewer.timeout.isTooLarge then
    { closing := [.modelFailed Duration.tooLargeReason], outcome := .ok [] }
  else if reviewer.timeout.isBrief then
    reviewer.overdue [] (.soon 4) 1
  else
    reviewer.ask diff question

/-- What happens when the reviewer looks at a diff. -/
def review (reviewer : ModelReviewer) (diff : Diff) : LayerRun :=
  match diff.summary reviewer.options with
  | .error error => { closing := [.modelFailed error.message], outcome := .ok [] }
  | .ok summary =>
    if Text.isBlankText summary.toList then
      { closing := [.nothingReviewable], outcome := .ok [] }
    else
      reviewer.consult diff (reviewer.question summary)

end ModelReviewer

/-- The layer that asks a chat model. -/
def Layer.ofModel (reviewer : ModelReviewer) : Layer where
  kind := "AIReviewLayer"
  name := "ai"
  run := reviewer.review

end DiffReview
