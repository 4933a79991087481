import DiffReview.Comment
import DiffReview.Diff.Basic
import DiffReview.Pattern.Search
import DiffReview.Text.Blank
import DiffReview.Text.Decimal

/-!
# Limits on the size and shape of a change

Four checks look at the size and shape of a change rather than at its text: the churn of a file, the
length of a function, the depth of its nesting, and the size of the whole change.  Each finding
carries what was measured; the limits only decide which measurements are findings.  The comment on a
long function also states its limit, and cannot be worded if that has too many digits.
-/

namespace DiffReview

open Text (DigitLimitError isBlank isWordCharacter)

/-- What a change may measure without being remarked on. -/
structure Limits where
  /-- The most lines of a function. -/
  functionLines : Int := 50
  /-- The most changed lines of a file. -/
  fileChurn : Int := 300
  /-- The deepest nesting. -/
  nestingDepth : Int := 4
  /-- The most added lines of a change. -/
  totalAdditions : Int := 500
deriving DecidableEq, Repr

/-- Something measured beyond its limit. -/
inductive Excess
  /-- A file with this many changed lines. -/
  | churn (changed : Nat)
  /-- A function of this many lines. -/
  | longFunction (lines : Nat) (limit : Int)
  /-- A line nested this deep. -/
  | deepNesting (depth : Nat)
  /-- A change with this many added lines in this many files. -/
  | largeChange (additions files : Nat)
deriving DecidableEq, Repr

namespace Excess

/-- The limit in text, where it is a part of the wording. -/
def limitText : Excess → Except DigitLimitError String
  | longFunction _ limit => Text.integerText limit
  | _ => .ok ""

/-- The wording of the comment, given the limit in text. -/
def wording (limit : String) : Excess → String
  | churn changed =>
    s!"High file churn ({changed} changed lines); consider splitting this into smaller changes."
  | longFunction lines _ =>
    s!"Function is {lines} lines long (limit: {limit}); consider extracting smaller functions."
  | deepNesting depth =>
    s!"Deeply nested code (depth {depth}); consider early returns or extracting helpers."
  | largeChange additions files =>
    s!"Large change: {additions} additions across {files} file(s); " ++
      "consider breaking it into smaller pull requests."

/-- The wording of the comment, unless a number in it cannot be written. -/
def message (excess : Excess) : Except DigitLimitError String := do
  let limit ← excess.limitText
  return excess.wording limit

/-- Nesting is a hint, all else a warning. -/
def severity : Excess → Severity
  | deepNesting _ => .info
  | _ => .warning

end Excess

/-- An excess with the place it is reported at. -/
structure Finding where
  /-- The path of the file. -/
  filename : String
  /-- The line number in the new revision. -/
  line : Nat
  /-- What was measured. -/
  excess : Excess
deriving DecidableEq, Repr

namespace Finding

/-- The finding as a comment with the given body. -/
def commentOf (finding : Finding) (body : String) : Comment where
  filename := finding.filename
  line := finding.line
  body := body
  severity := finding.excess.severity
  source := "heuristic"

/-- The finding as a comment, if that can be worded. -/
def comment (finding : Finding) : Except DigitLimitError Comment := do
  let body ← finding.excess.message
  return finding.commentOf body

end Finding

/-- The start of a function: a function declaration, or an arrow function bound to a name. -/
def functionStart : Pattern :=
  .sequence
    [.run isBlank,
      .optional (.seq (.literal "export") (.someOf isBlank)),
      .optional (.seq (.literal "default") (.someOf isBlank)),
      .optional (.seq (.literal "async") (.someOf isBlank)),
      .alt
        (.seq (.literal "function") .boundary)
        (.sequence
          [.choice (.literal "const") [.literal "let", .literal "var"], .someOf isBlank,
            .someOf isWordCharacter, .run isBlank, .literal "=", .run isBlank,
            .optional (.seq (.literal "async") (.someOf isBlank)),
            .alt
              (.sequence [.literal "(", .run (· != ')'), .literal ")"])
              (.someOf isWordCharacter),
            .run isBlank, .literal "=>"])]

/-- Whether the content of a line starts a function. -/
def startsFunction (content : String) : Bool :=
  functionStart.matchesAtStart content.toList

/-- How deep a line is indented: a tab counts one level, two spaces count one level. -/
def indentation (content : String) : Nat :=
  let leading := content.toList.takeWhile fun character => character == ' ' || character == '\t'
  leading.count '\t' + leading.count ' ' / 2

/-- Opening less closing braces. -/
def braceBalance (content : String) : Int :=
  content.toList.count '\x7b' - content.toList.count '\x7d'

/-- A function that has started and not yet ended. -/
structure OpenFunction where
  /-- The number of its first line. -/
  start : Nat
  /-- How many added lines it has so far. -/
  length : Nat := 0
  /-- How many of its braces are open. -/
  depth : Int := 0
deriving Repr

namespace OpenFunction

/-- The function after one more line. -/
def extend (state : OpenFunction) (content : String) : OpenFunction :=
  { state with length := state.length + 1, depth := state.depth + braceBalance content }

/-- A function ends where no brace is open, but not with its first line. -/
def isComplete (state : OpenFunction) : Bool :=
  state.depth ≤ 0 && 1 < state.length

end OpenFunction

/-- The first line and the length of each function that starts and ends among added lines, given
the function that is open before them. -/
def functionSpans : Option OpenFunction → List (String × Nat) → List (Nat × Nat)
  | _, [] => []
  | none, (content, line) :: rest =>
    if startsFunction content then
      functionSpans (some (OpenFunction.extend { start := line } content)) rest
    else
      functionSpans none rest
  | some state, (content, _) :: rest =>
    let state := state.extend content
    if state.isComplete then
      (state.start, state.length) :: functionSpans none rest
    else
      functionSpans (some state) rest

namespace Limits

/-- The finding about the churn of a file. -/
def checkChurn (limits : Limits) (file : FileDiff) : List Finding :=
  if limits.fileChurn < file.churn then [⟨file.filename, 1, .churn file.churn⟩] else []

/-- The findings about the functions that start and end in a hunk. -/
def checkFunctions (limits : Limits) (filename : String) (hunk : Hunk) : List Finding :=
  ((functionSpans none hunk.addedLines).filter fun (_, length) => limits.functionLines < length).map
    fun (start, length) => ⟨filename, start, .longFunction length limits.functionLines⟩

/-- The findings about the nesting of the added lines of a file. -/
def checkNesting (limits : Limits) (file : FileDiff) : List Finding :=
  (file.addedLines.filter fun (content, _) =>
      !Text.isBlankText content.toList && limits.nestingDepth < indentation content).map
    fun (content, line) => ⟨file.filename, line, .deepNesting (indentation content)⟩

/-- The findings about one file. -/
def checkFile (limits : Limits) (file : FileDiff) : List Finding :=
  limits.checkChurn file ++ file.hunks.flatMap (limits.checkFunctions file.filename) ++
    limits.checkNesting file

/-- The finding about the size of the whole change, reported at the first file. -/
def checkSize (limits : Limits) (diff : Diff) : List Finding :=
  if limits.totalAdditions < diff.additions then
    let filename := (diff.files.head?.map FileDiff.filename).getD "unknown"
    [⟨filename, 1, .largeChange diff.additions diff.files.length⟩]
  else
    []

/-- The findings about a diff. -/
def findings (limits : Limits) (diff : Diff) : List Finding :=
  diff.files.flatMap limits.checkFile ++ limits.checkSize diff

/-- The comments about a diff, if all of them can be worded. -/
def check (limits : Limits) (diff : Diff) : Except DigitLimitError (List Comment) :=
  (limits.findings diff).mapM Finding.comment

end Limits

end DiffReview
