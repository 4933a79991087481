import DiffReview.Action
import DiffReview.Application.Refusal
import DiffReview.HttpAnswer
import DiffReview.Json.Bytes
import DiffReview.Record
import DiffReview.Report

/-!
# The web application

Besides the webhook, the application reviews the text of a diff that is sent to it, says what it
offers, and tells that it is alive.
-/

namespace DiffReview.Application

open Text (Bytes soundText?)

/-- In which form the comments are wanted. -/
inductive ReportFormat
  | json
  | text
deriving DecidableEq, Repr

/-- The form that a field names. -/
def reportFormat : Json → Except FieldFault ReportFormat
  | .text points =>
    match (soundText? points).map String.ofList with
    | some "json" => .ok .json
    | some "text" => .ok .text
    | some _ => .error .literal
    | none => .error .stringUnicode
  | _ => .error .literal

/-- The value of a text field that must not be empty. -/
def presentText (value : Json) : Except FieldFault String := do
  let text ← Field.text value
  if text.isEmpty then .error .stringTooShort else return text

/-- A request for a review. -/
structure ReviewRequest where
  /-- The text of the diff. -/
  diff : String
  /-- In which form the comments are wanted. -/
  format : ReportFormat
deriving DecidableEq, Repr

namespace ReviewRequest

/-- Reads a request. -/
def read (members : Record.Members) : Checked ReviewRequest :=
  mk <$> Record.required presentText "diff" members
    <*> Record.withDefault reportFormat .json "format" members

end ReviewRequest

/-- The answer to a body that cannot be read. -/
def unreadable : HttpAnswer := .detail 400 "There was an error parsing the body"

/-- What a body asks for. -/
inductive Asked
  /-- A review. -/
  | review (request : ReviewRequest)
  /-- Nothing that can be done; this is why. -/
  | faulty (faults : List RequestFault)
  /-- Nothing that can be understood; the body is not JSON. -/
  | malformed
  /-- Nothing that can be read. -/
  | unreadable

namespace Asked

/-- What a value asks for.  Null counts as nothing at all. -/
def ofJson : Json → Asked
  | .null => faulty [.ofBody .null ⟨[], .missing⟩]
  | value =>
    match Record.ofJson ReviewRequest.read value with
    | .accepted request => review request
    | .refused faults => faulty (faults.map (.ofBody value))

/-- What a body asks for. -/
def ofBody (nesting : Nat) (body : Bytes) : Asked :=
  match Json.readBytes nesting body with
  | .ok value => ofJson value
  | .error (.invalid .malformed) => malformed
  | .error _ => unreadable

end Asked

/-- A comment in an answer. -/
def commentJson (comment : Comment) : Json :=
  .ofMembers
    [("filename", comment.filename), ("line", comment.line), ("body", comment.body),
      ("severity", comment.severity.name), ("source", comment.source)]

/-- The answer that holds the comments of a review. -/
def commentsAnswer (width : Nat) (format : ReportFormat) (comments : List Comment) : HttpAnswer :=
  let report : String × Json := match format with
    | .json => ("comments", .array (comments.map commentJson))
    | .text => ("output", Report.render width comments)
  .ok (.ofMembers [("success", true), ("total_comments", comments.length), report])

/-- The same if the lines of all comments can be written, which they cannot if they have too many
digits. -/
def sentComments (width : Nat) (format : ReportFormat) (comments : List Comment) :
    Action HttpAnswer := do
  comments.forM fun comment => discard (Action.ofDigits (Text.writeNumber comment.line.natAbs))
  return commentsAnswer width format comments

/-- The answer to a request whose review failed. -/
def failureAnswer : Failure → HttpAnswer
  | .expected error =>
    match error.activity with
    | .configuration =>
      ⟨400, .ofMembers
        [("detail", s!"Configuration error: {error.message}"), ("code", error.code)]⟩
    | _ =>
      ⟨502, .ofMembers
        [("detail", s!"Upstream failure: {error.message}"), ("code", error.code),
          ("retryable", error.isRetryable)]⟩
  | failure => .detail 500 s!"Review failed: {failure.message}"

/-- What is logged about a review that failed. -/
def failureEvents : Failure → List Event
  | .expected error =>
    match error.activity with
    | .configuration => []
    | _ => [.dependencyFailed error.code error.isRetryable error.message]
  | _ => []

/-- The answer to a request for a review, on a console of the given width. -/
def review (analyze : String → Action (List Comment)) (width nesting : Nat) (body : Bytes) :
    Action HttpAnswer :=
  match Asked.ofBody nesting body with
  | .unreadable => pure unreadable
  | .malformed => pure refusal
  | .faulty faults => ⟨[], refuse faults⟩
  | .review request =>
    let action := analyze request.diff
    match action.outcome with
    | .ok comments =>
      Action.andThen ⟨action.effects, .ok ()⟩ fun _ =>
        sentComments width request.format comments
    | .error failure =>
      ⟨action.effects ++ (failureEvents failure).map .log, .ok (failureAnswer failure)⟩

/-- The form of a log line. -/
def logFormat : String := "%(asctime)s %(levelname)s %(name)s: %(message)s"

/-- The level of the log that a setting names. -/
def logLevel (setting : String) : String :=
  String.ofList (Text.upper setting.toList)

end DiffReview.Application
