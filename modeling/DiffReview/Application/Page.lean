import DiffReview.Address.Reader
import DiffReview.Application.Endpoint
import DiffReview.Failure
import DiffReview.HttpAnswer

/-!
# Pages

The application has a few pages besides what it reviews.  The path of a page is found with and
without slashes at its end; a line feed at its very end is overlooked.
-/

namespace DiffReview.Application

open Text

/-- What stands at a path. -/
inductive Page
  /-- What the application says about itself. -/
  | overview
  /-- Whether the application is alive. -/
  | health
  /-- Something that only takes what is sent to it. -/
  | sink
  /-- A page that shows the endpoints to a reader. -/
  | documentation
  /-- A page that describes the endpoints to a program. -/
  | description
deriving DecidableEq, Repr

/-- What is sent for a page. -/
inductive PageAnswer
  /-- An answer. -/
  | answer (answer : HttpAnswer)
  /-- A document for a reader. -/
  | document (text : String)

namespace Page

/-- The pages by their paths. -/
def all : List (String × Page) :=
  [("/", overview), ("/health", health), ("/review", sink), ("/review/webhook", sink),
    ("/docs", documentation), ("/docs/oauth2-redirect", documentation), ("/redoc", documentation),
    ("/openapi.json", description)]

/-- The page at exactly this path, apart from a line feed at its end. -/
def at? (path : List Char) : Option Page :=
  let name := if path.getLast? = some '\n' then path.dropLast else path
  (all.lookup (String.ofList path)).or (all.lookup (String.ofList name))

/-- The path with slashes at its end where it has none, and without them where it has some. -/
def otherSpelling (path : List Char) : List Char :=
  if path.getLast? = some '/' then (path.reverse.dropWhile (· == '/')).reverse else path ++ ['/']

/-- The page at a path. -/
def find? (path : List Char) : Option Page :=
  (at? path).or (if path = ['/'] then none else at? (otherSpelling path))

/-- What the application says about itself. -/
def overviewBody : Json :=
  .ofMembers
    [("message", "Layered Code Review API"), ("version", "1.0.0"),
      ("endpoints", .ofMembers
        [("POST /review", "Submit a unified diff for review"),
          ("POST /review/webhook", "GitHub pull_request webhook"),
          ("GET /health", "Check API health")])]

/-- The start of the document that shows the endpoints. -/
def documentationText : String :=
  "\n    <!DOCTYPE html>\n    <html>\n"

/-- What is sent for a page. -/
def answer : Page → PageAnswer
  | overview => .answer (.ok overviewBody)
  | health => .answer (.ok (.ofMembers [("status", "healthy")]))
  | sink => .answer (.detail 405 "Method Not Allowed")
  | documentation => .document documentationText
  | description => .answer (.ok endpointDocument)

end Page

/-- The address of the application. -/
def home : Address where
  scheme := "http".toList
  host := "testserver".toList

/-- The path that is asked for by an address; escapes in it are resolved twice. -/
def askedPath (address : Address) : List Char :=
  Percent.decode (Percent.decode (Address.complete home address).wanted)

/-- What is sent to whoever asks for a page at an address. -/
def page (address : String) : Except Failure PageAnswer :=
  match Address.read address.toList with
  | .error fault => .error (.address fault)
  | .ok given =>
    .ok (((Page.find? (askedPath given)).map Page.answer).getD (.answer (.detail 404 "Not Found")))

end DiffReview.Application
