import DiffReview.Form
import DiffReview.HttpAnswer
import DiffReview.Json.Bytes
import DiffReview.PullRequestEvent
import DiffReview.Service
import DiffReview.Signature

/-!
# Webhook

The platform delivers events signed with a shared secret.  A delivery is let in only with a valid
signature, and leads to a review only if it tells of a pull request that was opened or changed.  The
answer to a delivery never depends on how the review goes.
-/

namespace DiffReview.Webhook

open Text (Bytes DigitLimitError codePoints decodeUtf8?)

/-- What is delivered. -/
structure Delivery where
  /-- The bytes that are signed. -/
  body : Bytes
  /-- What the body is said to be. -/
  contentType : Option String := none
  /-- The signature. -/
  signature : Option String := none

/-- What the webhook goes by. -/
structure Gate where
  /-- The secret that deliveries are signed with, if one is configured. -/
  secret : Option String
  /-- How many arrays and objects may be open at the same time in a body, which depends on the
  machine that reads it. -/
  nesting : Nat
  /-- In what words it is told why the body of a delivery denotes no value. -/
  explainBytes : Delivery → String
  /-- In what words it is told why a value describes no event. -/
  explainValue : Json → String

/-- What becomes of a delivery. -/
inductive Verdict
  /-- No secret is configured. -/
  | secretMissing
  /-- The signature is wrong or missing. -/
  | signatureInvalid
  /-- The body does not describe an event; this is why. -/
  | payloadInvalid (reason : String)
  /-- The values in the body enclose each other too often, the innermost being of this kind. -/
  | nestedTooOften (container : JsonContainer)
  /-- The event does not call for a review. -/
  | skipped
  /-- The event does not say which change it is about. -/
  | changeMissing
  /-- A change is to be reviewed. -/
  | accepted (change : Change)
deriving DecidableEq, Repr

/-- The content type of a form. -/
def formType : String := "application/x-www-form-urlencoded"

/-- Whether the body of a delivery is a form. -/
def Delivery.isForm (delivery : Delivery) : Bool :=
  delivery.contentType.any fun contentType => formType.toList.isPrefixOf contentType.toList

/-- The payload of a form; an empty object if there is none. -/
def payload? (body : Bytes) : Option (List Char) := do
  let text ← decodeUtf8? body
  return (Form.value? "payload" text).getD ['\x7b', '\x7d']

/-- The value that the body of a delivery denotes. -/
def Delivery.decode (nesting : Nat) (delivery : Delivery) : Except Json.BytesError Json :=
  if delivery.isForm then
    match payload? delivery.body with
    | some payload => (Json.read nesting (codePoints payload)).mapError .invalid
    | none => .error .undecodable
  else
    Json.readBytes nesting delivery.body

/-- The event that a delivery tells of, or what becomes of a delivery that tells of none. -/
def Gate.event (gate : Gate) (delivery : Delivery) : Except Verdict PullRequestEvent :=
  match delivery.decode gate.nesting with
  | .ok value =>
    (PullRequestEvent.ofJson value).value?.elim (.error (.payloadInvalid (gate.explainValue value)))
      .ok
  | .error (.invalid (.beyond (.nesting container))) => .error (.nestedTooOften container)
  | .error _ => .error (.payloadInvalid (gate.explainBytes delivery))

/-- What becomes of an event. -/
def judge (event : PullRequestEvent) : Verdict :=
  if event.isReviewed then
    match event.change? with
    | some change => .accepted change
    | none => .changeMissing
  else
    .skipped

namespace Gate

/-- The event that a delivery tells of, if the delivery is let in. -/
def admittedEvent (gate : Gate) (delivery : Delivery) : Except Verdict PullRequestEvent :=
  match Text.present? gate.secret with
  | none => .error .secretMissing
  | some secret =>
    if Signature.isValid secret delivery.body delivery.signature then
      gate.event delivery
    else
      .error .signatureInvalid

/-- What becomes of a delivery. -/
def verdict (gate : Gate) (delivery : Delivery) : Verdict :=
  match gate.admittedEvent delivery with
  | .error verdict => verdict
  | .ok event => judge event

/-- What is logged about a delivery. -/
def deliveryEvents (gate : Gate) (delivery : Delivery) : List Event :=
  match gate.admittedEvent delivery with
  | .error _ => []
  | .ok event =>
    .eventReceived event.action :: if judge event = .changeMissing then [.changeMissing] else []

end Gate

namespace Verdict

/-- The answer to a delivery, or why there is none. -/
def answer : Verdict → Except Failure HttpAnswer
  | secretMissing => .ok (.detail 500 "Webhook secret is not configured")
  | signatureInvalid => .ok (.detail 401 "Invalid or missing webhook signature")
  | payloadInvalid reason => .ok (.detail 400 s!"Invalid webhook payload: {reason}")
  | nestedTooOften container => .error (.nesting container)
  | skipped => .ok (.ok (.ofMembers [("received", true), ("skipped", true)]))
  | changeMissing =>
    .ok (.ok (.ofMembers [("received", true), ("skipped", true), ("reason", "missing PR data")]))
  | accepted _ => .ok (.ok (.ofMembers [("received", true)]))

/-- The change to review. -/
def change? : Verdict → Option Change
  | accepted change => some change
  | _ => none

end Verdict

/-- What is logged about the end of a review, unless the change cannot be named. -/
def reviewEvent (change : Change) (outcome : Except Failure (List Comment)) :
    Except DigitLimitError Event := do
  let slug ← change.slug
  return match outcome with
    | .ok comments => .reviewCompleted slug comments.length
    | .error (.expected error) => .reviewFailed slug error.code error.isRetryable error.message
    | .error _ => .reviewCrashed slug

/-- The review of a change in the background.  It does not fail as the service does, but only if the
change cannot be named in the log. -/
def review (service : Service) (change : Change) : Action Unit :=
  let action := service.handle change
  Action.andThen ⟨action.effects, .ok ()⟩ fun _ => do
    Action.log (← Action.ofDigits (reviewEvent change action.outcome))

/-- The answer to a delivery, together with all that happens because of it.  The answer has been
given before a review starts. -/
def receive (gate : Gate) (service : Service) (delivery : Delivery) : Action HttpAnswer :=
  let verdict := gate.verdict delivery
  let reviewed := verdict.change?.elim [] fun change => (review service change).effects
  { effects := (gate.deliveryEvents delivery).map .log ++ reviewed, outcome := verdict.answer }

end DiffReview.Webhook
