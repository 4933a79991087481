import DiffReview.Change
import DiffReview.Record

/-!
# Pull request events

The platform reports what happens to pull requests.  An event tells what was done, to which pull
request of which repository, and, where commits were added, what the head was before.
-/

namespace DiffReview

/-- A branch of a pull request. -/
structure BranchReference where
  /-- The revision at the end of the branch. -/
  revision : Option String
  /-- The name of the branch. -/
  name : String
deriving DecidableEq, Repr

namespace BranchReference

/-- Reads a branch. -/
def read (members : Record.Members) : Checked BranchReference :=
  mk <$> Record.nullable Field.anyText "sha" members <*> Record.required Field.anyText "ref" members

end BranchReference

/-- A pull request as an event describes it. -/
structure PullRequest where
  /-- The title. -/
  title : String
  /-- The text. -/
  body : Option String
  /-- The branch that the pull request comes from. -/
  head : BranchReference
  /-- The branch that the pull request goes to. -/
  base : BranchReference
deriving DecidableEq, Repr

namespace PullRequest

/-- Reads a pull request. -/
def read (members : Record.Members) : Checked PullRequest :=
  mk <$> Record.withDefault Field.anyText "" "title" members
    <*> Record.nullable Field.anyText "body" members
    <*> Record.nested BranchReference.read "head" members
    <*> Record.nested BranchReference.read "base" members

end PullRequest

/-- A repository as an event describes it. -/
structure RepositoryReference where
  /-- The name of the repository. -/
  name : String
  /-- Who owns the repository. -/
  owner : String
deriving DecidableEq, Repr

namespace RepositoryReference

/-- Reads the owner of a repository. -/
def readOwner (members : Record.Members) : Checked String :=
  Record.required Field.anyText "login" members

/-- Reads a repository. -/
def read (members : Record.Members) : Checked RepositoryReference :=
  mk <$> Record.required Field.anyText "name" members <*> Record.nested readOwner "owner" members

end RepositoryReference

/-- Something that happened to a pull request. -/
structure PullRequestEvent where
  /-- What was done. -/
  action : String
  /-- The number of the pull request. -/
  number : Option Int
  /-- The head before commits were added. -/
  before : Option String
  /-- The pull request. -/
  pullRequest : Option PullRequest
  /-- The repository. -/
  repository : Option RepositoryReference
deriving DecidableEq, Repr

namespace PullRequestEvent

/-- Reads the members of an event. -/
def read (members : Record.Members) : Checked PullRequestEvent :=
  mk <$> Record.required Field.anyText "action" members
    <*> Record.nullable Field.integer "number" members
    <*> Record.nullable Field.anyText "before" members
    <*> Record.nullableNested PullRequest.read "pull_request" members
    <*> Record.nullableNested RepositoryReference.read "repository" members

/-- Reads an event. -/
def ofJson (value : Json) : Checked PullRequestEvent :=
  Record.ofJson read value

/-- The action of adding commits. -/
def synchronizeAction : String := "synchronize"

/-- The actions after which a pull request is reviewed. -/
def reviewedActions : List String := ["opened", synchronizeAction]

/-- Whether the pull request is to be reviewed. -/
def isReviewed (event : PullRequestEvent) : Bool :=
  reviewedActions.contains event.action

/-- The revision that was reviewed last, if only commits were added. -/
def previous (event : PullRequestEvent) : Option String :=
  if event.action = synchronizeAction then event.before else none

/-- The change that the event is about, if it says which one that is. -/
def change? (event : PullRequestEvent) : Option Change := do
  let number ← event.number
  let pullRequest ← event.pullRequest
  let repository ← event.repository
  let head ← Text.present? pullRequest.head.revision
  return {
    owner := repository.owner
    repository := repository.name
    number
    head
    previous := event.previous
    title := some pullRequest.title
    description := pullRequest.body
    baseBranch := some pullRequest.base.name
    headBranch := some pullRequest.head.name }

end PullRequestEvent

end DiffReview
