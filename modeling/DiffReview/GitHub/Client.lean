import DiffReview.Action
import DiffReview.GitHub.Payload

/-!
# The hosting platform

Diffs are fetched from the platform and reviews are posted to it, each with one request.  A
response that reports no success is a failure, and so is a request without a response.  A change
whose number has too many digits to be written is neither fetched nor posted to.
-/

namespace DiffReview.GitHub

open Text (DigitLimitError)

/-- Where requests go unless another address is given. -/
def defaultAddress : String := "https://api.github.com"

/-- Access to the platform. -/
structure Client where
  /-- What proves that access is allowed. -/
  token : String
  /-- Where requests go. -/
  address : String := defaultAddress
  /-- How requests are sent. -/
  transport : Transport

namespace Client

/-- A text without slashes at its end. -/
def dropFinalSlashes (text : String) : String :=
  String.ofList (text.toList.reverse.dropWhile (· == '/')).reverse

/-- The address of a resource. -/
def url (client : Client) (path : String) : String :=
  dropFinalSlashes client.address ++ "/" ++ path

/-- The headers of a request for an answer in the given format. -/
def headers (client : Client) (accept : String) : List (String × String) :=
  [("accept", accept), (HttpRequest.authorizationHeader, s!"Bearer {client.token}"),
    ("x-github-api-version", "2022-11-28")]

/-- The failure of a request that has no response. -/
def faultError (activity : Activity) (request : HttpRequest) : TransportFault → ReviewError
  | .timeout =>
    { activity
      message := s!"GitHub request timed out: {request.method} {request.url}"
      code := "TIMEOUT" }
  | .network reason =>
    { activity
      message := s!"GitHub request failed: {request.method} {request.url}: {reason}"
      code := "NETWORK" }

/-- The failure of a request whose response reports no success. -/
def statusError (activity : Activity) (request : HttpRequest) (status : Int) : ReviewError where
  activity := activity
  message := s!"GitHub returned HTTP {status} for {request.method} {request.url}"
  code := codeForStatus status
  status := some status

/-- The start of a text that is long enough for the log. -/
def excerpt (text : String) : String :=
  String.ofList (text.toList.take 500)

/-- The failure of a request whose response comes from no host in particular. -/
def hostMissing (address : Address) : Failure :=
  .unacceptable s!"unknown url type: {String.ofList (Text.quoted address.text)}"

/-- The text of the response to a request that has been prepared; failures name the request as it
was before. -/
def receive (client : Client) (activity : Activity) (request : HttpRequest)
    (prepared : PreparedRequest) : Action String := do
  Action.perform (.send prepared.request)
  match client.transport prepared.request with
  | .error fault => Action.fail (.expected (faultError activity request fault))
  | .ok response =>
    if !prepared.address.isAbsolute then
      Action.fail (hostMissing prepared.address)
    else if response.isSuccess then
      return response.text
    else
      Action.log (.platformError response.status (excerpt response.text))
      Action.fail (.expected (statusError activity request response.status))

/-- The text of the response to a request. -/
def exchange (client : Client) (activity : Activity) (request : HttpRequest) : Action String :=
  match request.prepare with
  | .error failure => Action.fail failure
  | .ok prepared => client.receive activity request prepared

/-- The path of the pull request of a change. -/
def pullPath (change : Change) : Except DigitLimitError String := do
  let number ← change.numberText
  return s!"repos/{change.owner}/{change.repository}/pulls/{number}"

/-- The path of the diff of a change. -/
def diffPath (change : Change) : Except DigitLimitError String :=
  match change.previous? with
  | some previous =>
    .ok s!"repos/{change.owner}/{change.repository}/compare/{previous}...{change.head}"
  | none => pullPath change

/-- The request for the diff at a path. -/
def diffRequest (client : Client) (path : String) : HttpRequest where
  method := "GET"
  url := client.url path
  headers := client.headers "application/vnd.github.v3.diff"

/-- The first characters of a revision, by which it is known in the log. -/
def shortRevision (revision : String) : String :=
  String.ofList (revision.toList.take 7)

/-- What is logged before the diff of a change is fetched. -/
def fetchEvent (change : Change) : Except DigitLimitError Event := do
  let slug ← change.slug
  return match change.previous? with
    | some previous => .fetchingSince (shortRevision previous) (shortRevision change.head) slug
    | none => .fetchingAll slug

/-- The diff of a change. -/
def fetch (client : Client) (change : Change) : Action String := do
  Action.log (← Action.ofDigits (fetchEvent change))
  let path ← Action.ofDigits (diffPath change)
  client.exchange .fetching (client.diffRequest path)

/-- The request that posts a review of the pull request at a path. -/
def reviewRequest (client : Client) (path : String) (payload : Payload) : HttpRequest where
  method := "POST"
  url := client.url (path ++ "/reviews")
  headers := client.headers "application/vnd.github+json"
  body := some payload.json

/-- Comments posted to a change; nothing is sent if there are none. -/
def post (client : Client) (maxComments : Int) (change : Change) (comments : List Comment) :
    Action Unit :=
  if comments.isEmpty then
    return
  else do
    let payload := Payload.ofComments maxComments change comments
    let path ← Action.ofDigits (pullPath change)
    let _ ← client.exchange .posting (client.reviewRequest path payload)
    let slug ← Action.ofDigits change.slug
    Action.log (.commentsPosted payload.comments.length comments.length slug)

end Client

end DiffReview.GitHub
