import DiffReview.Comment.Cluster

/-!
# Merging comments

The comments of several reviewers are reduced to one for each location: near duplicates are
collapsed first, and of what remains the most severe comment stays, the earliest of those.
-/

namespace DiffReview

open Number (Binary64)

/-- A comment with its position among all comments. -/
abbrev Placed := Nat × Comment

namespace Placed

/-- Whether a comment is preferred to another one of the same location. -/
def beats (candidate current : Placed) : Bool :=
  current.2.severity.rank < candidate.2.severity.rank ||
    (candidate.2.severity.rank == current.2.severity.rank && candidate.1 < current.1)

/-- The most preferred of some comments. -/
def best? : List Placed → Option Placed
  | [] => none
  | first :: others =>
    some (others.foldl (fun current candidate =>
      if candidate.beats current then candidate else current) first)

end Placed

namespace Comment

/-- The comments with their positions. -/
def place (comments : List Comment) : List Placed :=
  comments.zipIdx.map fun (comment, position) => (position, comment)

/-- The locations of some comments, without repetition, in the order of their first comments. -/
def locations (comments : List Comment) : List (String × Int) :=
  (comments.map location).eraseDups

/-- The comment that stays at a location. -/
def survivor? (threshold : Binary64) (comments : List Comment) (location : String × Int) :
    Option Placed :=
  let group := (place comments).filter fun placed => placed.2.location == location
  Placed.best? (representatives threshold group)

/-- One comment for each location, in the order of the comments that stay. -/
def merge (threshold : Binary64) (comments : List Comment) : List Comment :=
  let survivors := (locations comments).filterMap (survivor? threshold comments)
  (survivors.mergeSort fun left right => decide (left.1 ≤ right.1)).map Prod.snd

end Comment

end DiffReview
