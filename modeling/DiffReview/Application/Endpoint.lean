import DiffReview.Json.Basic

/-!
# Endpoints

The application describes its endpoints in the OpenAPI format: for each path what can be done there,
what has to be sent, and which answers there are.
-/

namespace DiffReview.Application

/-- An endpoint. -/
structure Endpoint where
  /-- The path. -/
  path : String
  /-- What is done, in small letters. -/
  method : String
  /-- The short name. -/
  title : String
  /-- The name for programs. -/
  name : String
  /-- The longer description. -/
  description : Option String := none
  /-- The name of the schema of what is sent. -/
  schema : Option String := none

namespace Endpoint

/-- The endpoints. -/
def all : List Endpoint :=
  [{ path := "/", method := "get", title := "Root", name := "root__get" },
    { path := "/health", method := "get", title := "Health", name := "health_health_get" },
    { path := "/review"
      method := "post"
      title := "Review Diff"
      name := "review_diff_review_post"
      description := some
        ("Review a raw unified diff.\n\nReturns structured JSON by default or formatted text " ++
          "output if format='text'.")
      schema := some "ReviewRequest" },
    { path := "/review/webhook"
      method := "post"
      title := "Review Webhook"
      name := "review_webhook_review_webhook_post"
      description := some
        ("GitHub ``pull_request`` webhook.\n\nThe event is acknowledged immediately and " ++
          "reviewed in the background, since\nGitHub gives up on deliveries that take longer than ten " ++
          "seconds.") }]

/-- Content with a schema. -/
def content (schema : Json) : Json :=
  .ofMembers [("application/json", .ofMembers [("schema", schema)])]

/-- A reference to a schema. -/
def reference (schema : String) : Json :=
  .ofMembers [("$ref", s!"#/components/schemas/{schema}")]

/-- An answer with a description and a schema. -/
def answer (description : String) (schema : Json) : Json :=
  .ofMembers [("description", description), ("content", content schema)]

/-- The answers of an endpoint. -/
def answers (endpoint : Endpoint) : Json :=
  let refused := endpoint.schema.map fun _ =>
    ("422", answer "Validation Error" (reference "HTTPValidationError"))
  .ofMembers (("200", answer "Successful Response" (.object [])) :: refused.toList)

/-- The description of what is done at an endpoint. -/
def operation (endpoint : Endpoint) : Json :=
  let body := endpoint.schema.map fun schema =>
    ("requestBody", Json.ofMembers [("content", content (reference schema)), ("required", true)])
  .ofMembers
    ([("summary", (endpoint.title : Json)), ("operationId", endpoint.name),
      ("responses", endpoint.answers)] ++
      (endpoint.description.map fun text => ("description", Json.string text)).toList ++
      body.toList)

end Endpoint

/-! ## Schemas -/

/-- The schema of a simple value. -/
def simpleSchema (kind title : String) (more : List (String × Json)) : Json :=
  .ofMembers ([("type", (kind : Json)), ("title", title)] ++ more)

/-- The schema of an object. -/
def objectSchema (title : String) (properties : List (String × Json))
    (more : List (String × Json)) : Json :=
  simpleSchema "object" title (("properties", .ofMembers properties) :: more)

/-- The schema of a list. -/
def listSchema (title : String) (item : Json) : Json :=
  simpleSchema "array" title [("items", item)]

/-- The names of fields that have to be there. -/
def requiredFields (names : List String) : String × Json :=
  ("required", .array (names.map Json.string))

/-- A diff that serves as an example. -/
def exampleDiff : String :=
  "diff --git a/src/x.ts b/src/x.ts\n--- a/src/x.ts\n+++ b/src/x.ts\n@@ -1,0 +1,1 @@\n+debugger;"

/-- The schema of a request for a review. -/
def requestSchema : Json :=
  objectSchema "ReviewRequest"
    [("diff", simpleSchema "string" "Diff"
        [("minLength", Json.integer 1),
          ("description", "Unified diff text, e.g. the output of git diff")]),
      ("format", simpleSchema "string" "Format"
        [("enum", .array ["json", "text"]),
          ("description", "Output format: 'json' or 'text'"), ("default", "json")])]
    [requiredFields ["diff"],
      ("example", .ofMembers [("diff", exampleDiff), ("format", "json")])]

/-- The schema of an answer that names the faults of a request. -/
def refusalSchema : Json :=
  objectSchema "HTTPValidationError"
    [("detail", listSchema "Detail" (Endpoint.reference "ValidationError"))] []

/-- The schema of a fault. -/
def faultSchema : Json :=
  let step := Json.ofMembers
    [("anyOf", .array ((["string", "integer"] : List String).map fun kind =>
      .ofMembers [("type", .string kind)]))]
  objectSchema "ValidationError"
    [("loc", listSchema "Location" step), ("msg", simpleSchema "string" "Message" []),
      ("type", simpleSchema "string" "Error Type" []),
      ("input", .ofMembers [("title", "Input")]), ("ctx", simpleSchema "object" "Context" [])]
    [requiredFields ["loc", "msg", "type"]]

/-! ## The document -/

/-- The description of the endpoints. -/
def endpointDocument : Json :=
  .ofMembers
    [("openapi", "3.1.0"),
      ("info", .ofMembers
        [("title", "Layered Code Review API"),
          ("description", "Review unified diffs with pattern, heuristic and LLM-backed layers"),
          ("version", "1.0.0")]),
      ("paths", .ofMembers (Endpoint.all.map fun endpoint =>
        (endpoint.path, .ofMembers [(endpoint.method, endpoint.operation)]))),
      ("components", .ofMembers
        [("schemas", .ofMembers
          [("HTTPValidationError", refusalSchema), ("ReviewRequest", requestSchema),
            ("ValidationError", faultSchema)])])]

end DiffReview.Application
