import DiffReview.Address.Fault
import DiffReview.Json.Basic
import DiffReview.Text.EncodingFault

/-!
# Failures

A failure that was to be expected (a setting is missing, another service refuses) carries a code, by
which callers tell what to do next.  All other failures carry what went wrong and nothing more.
-/

namespace DiffReview

open Text (DigitLimitError EncodingFault)

/-- What was being done when an expected failure arose. -/
inductive Activity
  /-- Reviewing in general. -/
  | review
  /-- Looking for something that has to be configured. -/
  | configuration
  /-- Fetching the diff of a change. -/
  | fetching
  /-- Posting comments to a change. -/
  | posting
deriving DecidableEq, Repr

namespace Activity

/-- The code of a failure to which none is given. -/
def defaultCode : Activity → String
  | configuration => "CONFIGURATION"
  | _ => "UNKNOWN"

end Activity

/-- A failure that was to be expected. -/
structure ReviewError where
  /-- What was being done. -/
  activity : Activity
  /-- What went wrong. -/
  message : String
  /-- The kind of failure. -/
  code : String := activity.defaultCode
  /-- The status of the response that reported the failure. -/
  status : Option Int := none
deriving DecidableEq, Repr

namespace ReviewError

/-- A failure with the given code, or with the usual one where that is empty. -/
def ofCode (activity : Activity) (message code : String) (status : Option Int) : ReviewError where
  activity := activity
  message := message
  code := if code.isEmpty then activity.defaultCode else code
  status := status

/-- The codes of failures that may pass. -/
def passingCodes : List String := ["RATE_LIMIT", "TIMEOUT", "NETWORK"]

/-- Whether the same action may succeed later.  What is not configured stays so. -/
def isRetryable (error : ReviewError) : Bool :=
  match error.activity with
  | .configuration => false
  | _ => passingCodes.contains error.code || error.status.any (500 ≤ ·)

end ReviewError

/-- The code of a failure that a response reports by its status. -/
def codeForStatus (status : Int) : String :=
  if status = 401 ∨ status = 403 then "UNAUTHORIZED"
  else if status = 404 then "NOT_FOUND"
  else if status = 429 then "RATE_LIMIT"
  else "HTTP"

/-- Why an action has no result. -/
inductive Failure
  /-- A failure that was to be expected. -/
  | expected (error : ReviewError)
  /-- A number has too many digits. -/
  | digits (error : DigitLimitError)
  /-- JSON values enclose each other too often, the innermost being of this kind. -/
  | nesting (container : JsonContainer)
  /-- A text is no address. -/
  | address (fault : AddressFault)
  /-- A text cannot be encoded. -/
  | encoding (fault : EncodingFault)
  /-- A value is not acceptable. -/
  | unacceptable (reason : String)
  /-- Something broke. -/
  | broken (reason : String)
deriving DecidableEq, Repr

namespace Failure

/-- What went wrong. -/
def message : Failure → String
  | expected error => error.message
  | digits error => error.message
  | nesting container => container.nestingMessage
  | address fault => fault.message
  | encoding fault => fault.message
  | unacceptable reason => reason
  | broken reason => reason

/-- The failure that a bound of JSON text leads to. -/
def ofJsonLimit : JsonLimitError → Failure
  | .digits error => digits error
  | .nesting container => nesting container

end Failure

end DiffReview
