import DiffReview.Comment.Similarity

/-!
# Clusters

Comments that say nearly the same are gathered into clusters.  A cluster is known by the words of
its first comment, and is represented by its most severe comment, the earliest of those.  Each
comment joins the earliest cluster that it is similar to, and opens a new one if there is none.
-/

namespace DiffReview

open Number (Binary64)

/-- A cluster of comments, each with a tag that says where it came from. -/
structure Cluster (α : Type) where
  /-- The words of the first comment. -/
  anchor : List String
  /-- The comment that stands for the cluster, with its tag. -/
  representative : α × Comment

namespace Cluster

variable {α : Type}

/-- The cluster that a comment opens. -/
def ofEntry (entry : α × Comment) : Cluster α :=
  ⟨entry.2.words, entry⟩

/-- Whether a comment is similar enough to the first comment of the cluster. -/
def accepts (threshold : Binary64) (cluster : Cluster α) (comment : Comment) : Bool :=
  threshold < wordSimilarity comment.words cluster.anchor

/-- The cluster after a comment has joined it. -/
def join (cluster : Cluster α) (entry : α × Comment) : Cluster α :=
  if cluster.representative.2.severity.rank < entry.2.severity.rank then
    { cluster with representative := entry }
  else
    cluster

/-- The clusters after one more comment. -/
def insert (threshold : Binary64) (entry : α × Comment) : List (Cluster α) → List (Cluster α)
  | [] => [ofEntry entry]
  | cluster :: others =>
    if cluster.accepts threshold entry.2 then
      cluster.join entry :: others
    else
      cluster :: insert threshold entry others

/-- The clusters of some comments, in the order of their first comments. -/
def ofEntries (threshold : Binary64) (entries : List (α × Comment)) : List (Cluster α) :=
  entries.foldl (fun clusters entry => insert threshold entry clusters) []

end Cluster

/-- The comments that stand for the clusters of some comments. -/
def representatives {α : Type} (threshold : Binary64) (entries : List (α × Comment)) :
    List (α × Comment) :=
  (Cluster.ofEntries threshold entries).map Cluster.representative

end DiffReview
