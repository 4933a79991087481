import DiffReview.Address.Reader
import DiffReview.Failure
import DiffReview.Json.Writer
import DiffReview.Text.Base64

/-!
# Requests to other services

A request is sent to a transport, which answers with a response or says why there is none.  Before
that, its address is brought into its normal form, its headers have to be ASCII, and no integer in
its body may have too many digits.
-/

namespace DiffReview

/-- A request to another service. -/
structure HttpRequest where
  /-- What is to be done. -/
  method : String
  /-- Where the request goes. -/
  url : String
  /-- The headers by name. -/
  headers : List (String × String)
  /-- The JSON that is sent along. -/
  body : Option Json := none

/-- A request that can be sent. -/
structure PreparedRequest where
  /-- The request as it is sent. -/
  request : HttpRequest
  /-- The address to which it is sent. -/
  address : Address

namespace HttpRequest

/-- Why some headers cannot be sent, if they cannot: each name and each value has to be ASCII. -/
def headerFault? (headers : List (String × String)) : Option Text.EncodingFault :=
  (headers.flatMap fun (name, value) => [name, value]).findSome? fun text =>
    Text.EncodingFault.find? .ascii (Text.codePoints text.toList)

/-- The name of the header that proves who sends a request. -/
def authorizationHeader : String := "authorization"

/-- What proves who sends a request by a name and a password. -/
def basicAuthorization (name password : List Char) : String :=
  let bytes := Text.encodeUtf8 (String.ofList (name ++ ':' :: password))
  "Basic " ++ String.ofList (Text.Base64.encode bytes)

/-- The headers, where the credentials of the address take the place of all others. -/
def headersFor (address : Address) (headers : List (String × String)) : List (String × String) :=
  match address.credentials? with
  | none => headers
  | some (user, password) =>
    headers.map fun (name, value) =>
      if name = authorizationHeader then (name, basicAuthorization user password) else (name, value)

/-- The request as it is sent, if it can be.  An address without a host wants something of no host
in particular. -/
def prepare (request : HttpRequest) : Except Failure PreparedRequest := do
  match Address.read request.url.toList with
  | .error fault => throw (.address fault)
  | .ok given =>
    match headerFault? request.headers with
    | some fault => throw (.encoding fault)
    | none =>
      if request.body.any fun body => !body.isWritable then
        throw (.digits .writing)
      let address := Address.complete {} given
      return {
        address
        request := { request with
          url := String.ofList address.text
          headers := headersFor address request.headers } }

end HttpRequest

/-- A response of another service. -/
structure HttpResponse where
  /-- The status. -/
  status : Int
  /-- The text of the body. -/
  text : String
deriving DecidableEq, Repr

namespace HttpResponse

/-- Whether the status reports success. -/
def isSuccess (response : HttpResponse) : Bool :=
  decide (200 ≤ response.status) && decide (response.status ≤ 299)

end HttpResponse

/-- Why there is no response. -/
inductive TransportFault
  /-- Some part of the exchange took too long. -/
  | timeout
  /-- The exchange failed. -/
  | network (reason : String)
deriving DecidableEq, Repr

/-- What becomes of a request. -/
abbrev Transport := HttpRequest → Except TransportFault HttpResponse

end DiffReview
