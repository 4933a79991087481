import DiffReview.Comment
import DiffReview.Diff.Basic
import DiffReview.Event
import DiffReview.Field
import DiffReview.Json.Reader
import DiffReview.Text.Lines

/-!
# Replies

The reply of a chat model is JSON, perhaps in a code fence, with a list of comments.  Each entry of
the list is judged by itself: it is taken if it names a file of the diff, a line from one on and a
body, and is otherwise discarded.
-/

namespace DiffReview.Reply

open Text

/-- The mark that opens and closes a code fence. -/
def fence : List Char := "```".toList

/-- The text between the marks of a code fence that spans the whole content, without surrounding
blanks. -/
def unfenced? (content : List Char) : Option (List Char) := do
  let opened ← fence.isPrefixOf? (trimStart isBlank content)
  let body := trimEnd isBlank (dropMark "json".toList opened)
  let inner ← fence.reverse.isPrefixOf? body.reverse
  return trim isBlank inner.reverse

/-- The content without its code fence, if it has one. -/
def unfence (content : List Char) : List Char :=
  (unfenced? content).getD content

/-- The value of a member of an entry. -/
def memberOf (members : List (List CodePoint × Json)) (name : String) : Except FieldFault Json :=
  match Json.member? name members with
  | some value => .ok value
  | none => .error .missing

/-- The severity that an entry states; whatever is not understood counts as information. -/
def severityOf (value : Option Json) : Severity :=
  ((value.bind Json.text?).bind Severity.ofText?).getD .info

/-- The comment that an entry states. -/
def commentOf (members : List (List CodePoint × Json)) : Except FieldFault Comment := do
  let filename ← Field.trimmedText (← memberOf members "filename")
  let line ← Field.integer (← memberOf members "line")
  if line < 1 then
    throw .atLeast
  let body ← Field.trimmedText (← memberOf members "body")
  let severity := severityOf (Json.member? "severity" members)
  return { filename, line, body, severity, source := "ai" }

/-- The comment of an entry, if the entry is accepted for a diff with the given files. -/
def accept? (filenames : List String) : Json → Option Comment
  | .object members =>
    match commentOf members with
    | .ok comment => if filenames.contains comment.filename then some comment else none
    | .error _ => none
  | _ => none

/-- The comments of the entries that are accepted, and the event about the others. -/
def acceptAll (filenames : List String) (entries : List Json) : List Comment × List Event :=
  let comments := entries.filterMap (accept? filenames)
  let discarded := entries.length - comments.length
  (comments, if discarded = 0 then [] else [.entriesDiscarded discarded])

/-- The comments that a reply states about a diff, and what is logged about it. -/
def read (nesting : Nat) (diff : Diff) (content : String) :
    Except JsonLimitError (List Comment × List Event) :=
  if isBlankText content.toList then
    .ok ([], [])
  else
    match Json.read nesting (codePoints (unfence content.toList)) with
    | .error .malformed => .ok ([], [.replyMalformed])
    | .error (.beyond error) => .error error
    | .ok value =>
      match value.get? "comments" with
      | some (.array entries) => .ok (acceptAll diff.filenames entries)
      | _ => .ok ([], [.replyWithoutComments])

end DiffReview.Reply
