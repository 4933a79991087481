import DiffReview.Failure
import DiffReview.HttpAnswer
import DiffReview.Json.Compact
import DiffReview.Record

/-!
# Refusals

A request that does not follow the rules is refused with an answer that names each fault and sends
back the value that is at fault.  A value that cannot be sent back makes the answer fail: a number
that is not finite, or else a surrogate.
-/

namespace DiffReview.Application

open Text (EncodingFault)

/-- A fault of a request, with the value that is at fault. -/
structure RequestFault where
  /-- The names that lead to the value. -/
  place : List String
  /-- Why the value is refused. -/
  fault : FieldFault
  /-- The value. -/
  value : Json

namespace RequestFault

/-- The value at a place, which is null if nothing is there. -/
def valueAt (place : List String) (body : Json) : Json :=
  place.foldl (fun value name => (value.get? name).getD .null) body

/-- A fault of the body of a request.  What lacks a field is at fault for it. -/
def ofBody (body : Json) (fault : LocatedFault) : RequestFault where
  place := "body" :: fault.place
  fault := fault.fault
  value := valueAt (if fault.fault = .missing then fault.place.dropLast else fault.place) body

/-- What the names of the forms of a report are said to be. -/
def expectedForms : String := "'json' or 'text'"

/-- What is said about a fault. -/
def message : FieldFault → String
  | .missing => "Field required"
  | .stringType => "Input should be a valid string"
  | .stringUnicode => "Input should be a valid string, unable to parse raw data as a unicode string"
  | .stringTooShort => "String should have at least 1 character"
  | .literal => s!"Input should be {expectedForms}"
  | _ => "Input should be a valid dictionary or object to extract fields from"

/-- The code of a fault. -/
def code : FieldFault → String
  | .modelType => "model_attributes_type"
  | fault => fault.code

/-- What a fault depends on. -/
def context : FieldFault → List (String × Json)
  | .stringTooShort => [("ctx", .ofMembers [("min_length", Json.integer 1)])]
  | .literal => [("ctx", .ofMembers [("expected", expectedForms)])]
  | _ => []

/-- A fault as a part of an answer. -/
def json (fault : RequestFault) : Json :=
  .ofMembers
    ([("type", (code fault.fault : Json)),
      ("loc", .array (fault.place.map Json.string)),
      ("msg", message fault.fault), ("input", fault.value.sendable)] ++ context fault.fault)

end RequestFault

/-- What an answer about some faults holds. -/
def refusalBody (faults : List RequestFault) : Json :=
  .ofMembers [("detail", .array (faults.map RequestFault.json))]

/-- The answer to a request that does not follow the rules; it tells nothing of the faults. -/
def refusal : HttpAnswer := ⟨422, .null⟩

/-- The failure to send a number that is not finite. -/
def notFinite : Failure :=
  .unacceptable "Out of range float values are not JSON compliant"

/-- The answer to a request with some faults, or why it cannot be sent. -/
def refuse (faults : List RequestFault) : Except Failure HttpAnswer :=
  let body := refusalBody faults
  if !body.isFinite then
    .error notFinite
  else
    match EncodingFault.find? .utf8 body.compact with
    | some fault => .error (.encoding fault)
    | none => .ok refusal

end DiffReview.Application
