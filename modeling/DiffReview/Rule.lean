import DiffReview.Comment
import DiffReview.Diff.Basic
import DiffReview.Pattern.Search

/-!
# Rules

A rule is a test that added lines must not pass; the rules in force by default look for a pattern
anywhere in the line.  Scanning a diff gives one comment for each added line and each rule that
fires on it, in the order of files, lines and rules.
-/

namespace DiffReview

open Text (isBlank matchesFolded)

/-- A test that added lines must not pass. -/
structure Rule where
  /-- The name of the rule. -/
  id : String
  /-- Whether what the rule looks for occurs in a text. -/
  occursIn : List Char → Bool
  /-- What the comment says. -/
  message : String
  /-- How serious the finding is. -/
  severity : Severity := .warning

namespace Rule

/-- Whether the rule fires on the content of a line. -/
def fires (rule : Rule) (content : String) : Bool :=
  rule.occursIn content.toList

/-- The comment that the rule makes at a line. -/
def comment (rule : Rule) (filename : String) (line : Nat) : Comment where
  filename := filename
  line := line
  body := s!"[{rule.id}] {rule.message}"
  severity := rule.severity
  source := "pattern"

/-- The rule that looks for a given text. -/
def ofLiteral (id text message : String) (severity : Severity) : Rule where
  id := id
  occursIn := (Pattern.literal text).occursIn
  message := message
  severity := severity

/-- A call of a console logging function. -/
def consoleLog : Rule where
  id := "no-console-log"
  occursIn := Pattern.occursIn <| .sequence
    [.boundary, .literal "console.", .choice (.literal "log") [.literal "debug", .literal "info"],
      .run isBlank, .literal "("]
  message := "`console.log/debug/info` detected; remove before merging."
  severity := .warning

/-- A note that something is left to do. -/
def unresolvedNote : Rule where
  id := "no-todo-fixme"
  occursIn := Pattern.occursIn <| .sequence
    [.boundary,
      .choice (.literal "TODO") [.literal "FIXME", .literal "HACK", .literal "XXX"],
      .boundary]
  message := "Unresolved TODO/FIXME/HACK/XXX comment detected."
  severity := .info

/-- A single or double quote. -/
def isQuote (character : Char) : Bool :=
  character == '\'' || character == '"'

/-- A secret written into the code: a telling name that is given a quoted text of four or more
characters. -/
def hardcodedSecret : Rule where
  id := "no-hardcoded-secrets"
  occursIn := Pattern.occursIn <| .sequence
    [.choice (.folded "password")
        [.folded "passwd", .folded "api_key", .folded "apikey", .folded "secret", .folded "token",
          .folded "auth"],
      .run isBlank, .one fun character => character == ':' || character == '=',
      .run isBlank, .one isQuote,
      .one (!isQuote ·), .one (!isQuote ·), .one (!isQuote ·), .one (!isQuote ·)]
  message := "Possible hardcoded secret; use environment variables or a secret manager instead."
  severity := .error

/-- A statement that stops in the debugger. -/
def debuggerStatement : Rule where
  id := "no-debugger"
  occursIn := Pattern.occursIn <| .sequence [.boundary, .literal "debugger", .boundary]
  message := "`debugger` statement detected; remove before merging."
  severity := .error

/-- A call that opens an alert box. -/
def alertCall : Rule where
  id := "no-alert"
  occursIn := Pattern.occursIn <| .sequence [.boundary, .literal "alert", .run isBlank, .literal "("]
  message := "`alert()` detected; remove it or replace it with proper UI feedback."
  severity := .warning

/-- The rules in force where none are given. -/
def defaults : List Rule :=
  [consoleLog, unresolvedNote, hardcodedSecret, debuggerStatement, alertCall]

/-- The comments of the rules on one file. -/
def scanFile (rules : List Rule) (file : FileDiff) : List Comment :=
  file.addedLines.flatMap fun (content, line) =>
    (rules.filter fun rule => rule.fires content).map fun rule => rule.comment file.filename line

/-- The comments of the rules on a diff. -/
def scan (rules : List Rule) (diff : Diff) : List Comment :=
  diff.files.flatMap (scanFile rules)

end Rule

end DiffReview
