import DiffReview.Action
import DiffReview.Address.Redaction

/-!
# Local clones

The diff of a change can be computed in a local clone: since the revision that was reviewed last, or
else since the change left its base branch.
-/

namespace DiffReview

/-- What is found at a path. -/
inductive Place
  /-- Nothing. -/
  | nothing
  /-- Something that cannot be opened as a repository. -/
  | broken (reason : String)
  /-- A repository without files. -/
  | bare
  /-- A repository that computes diffs between revisions, or says why it cannot. -/
  | repository (compute : String → Except String String)

/-- A local clone of a repository. -/
structure Clone where
  /-- Where the clone is. -/
  path : String
  /-- The revision to compare with where a change has no base branch. -/
  defaultBase : String
  /-- The diff between revisions, or what is reported instead. -/
  compute : String → Except String String

namespace Clone

/-- The revision to compare with unless another one is given: the one before the last. -/
def usualBase : String := "HEAD~1"

/-- The slashes that a path starts with: two are kept, all other numbers count as one. -/
def pathRoot (path : List Char) : List Char :=
  match (path.takeWhile (· == '/')).length with
  | 0 => []
  | 2 => ['/', '/']
  | _ => ['/']

/-- The parts of a path that lead somewhere else. -/
def pathParts (path : List Char) : List (List Char) :=
  (path.splitOn '/').filter fun part => !part.isEmpty && part != ['.']

/-- The normal form of a path: without empty parts and single dots; a dot if nothing is left. -/
def normalPath (path : String) : String :=
  let text := pathRoot path.toList ++ ['/'].intercalate (pathParts path.toList)
  if text.isEmpty then "." else String.ofList text

/-- The failure to use a clone. -/
def unusable (message : String) : ReviewError where
  activity := .configuration
  message := message

/-- The clone at a path. -/
def atPath (look : String → Place) (path defaultBase : String) : Except ReviewError Clone :=
  let path := normalPath path
  match look path with
  | .nothing => .error (unusable s!"Repository path does not exist: {path}")
  | .broken reason => .error (unusable s!"Failed to open repository: {reason}")
  | .bare => .error (unusable "Bare repositories are not supported")
  | .repository compute => .ok { path, defaultBase, compute }

/-- The base branch of a change, or the default where it is missing or empty. -/
def baseOf (clone : Clone) (change : Change) : String :=
  (Text.present? change.baseBranch).getD clone.defaultBase

/-- The revisions to compare for a change. -/
def revisions (clone : Clone) (change : Change) : String :=
  match change.previous? with
  | some previous => s!"{previous}..{change.head}"
  | none => s!"{clone.baseOf change}...{change.head}"

/-- What is said about a diff that could not be computed; a command is shown without the
credentials in it. -/
def computeFault (revisions report : String) : String :=
  if report.isEmpty then
    let shown := String.ofList (Address.redact revisions.toList)
    s!"Cmd('git') failed due to: exit code(128)\n  cmdline: git diff {shown}"
  else
    s!"\n  stderr: '{report}'"

/-- The failure to compute a diff. -/
def computeError (revisions report : String) : ReviewError where
  activity := .fetching
  message := s!"git diff {revisions} failed: {computeFault revisions report}"
  code := "GIT"

/-- The diff of a change. -/
def fetch (clone : Clone) (change : Change) : Action String := do
  let revisions := clone.revisions change
  Action.log (.computingDiff revisions clone.path)
  Action.perform (.compute revisions)
  match clone.compute revisions with
  | .ok diff => return diff
  | .error report => Action.fail (.expected (computeError revisions report))

end Clone

end DiffReview
