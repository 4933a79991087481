import DiffReview.Comment
import DiffReview.Comment.Words
import DiffReview.Number.Rounding

/-!
# Similarity

Two sets of words are as similar as the share of their common words in all their words.
-/

namespace DiffReview

open Number (Binary64)

/-- The similarity above which two comments say the same, unless another is given. -/
def defaultThreshold : Binary64 := 0.6

/-- The words of the first set that are in the second. -/
def commonWords (left right : List String) : List String :=
  left.filter right.contains

/-- The words of either set. -/
def allWords (left right : List String) : List String :=
  left ++ right.filter fun word => !left.contains word

/-- The number of common words over the number of all words of two sets without repetition, as the
nearest binary64 number; zero if there are no words. -/
def wordSimilarity (left right : List String) : Binary64 :=
  if (allWords left right).isEmpty then
    0
  else
    Number.nearestQuotient (commonWords left right).length (allWords left right).length

namespace Comment

/-- The significant words of what a comment says. -/
def words (comment : Comment) : List String :=
  significantWords comment.body

/-- How similar two comments are. -/
def similarity (left right : Comment) : Binary64 :=
  wordSimilarity left.words right.words

/-- Whether two comments are more similar than the threshold. -/
def isSimilar (threshold : Binary64) (left right : Comment) : Bool :=
  threshold < left.similarity right

end Comment

end DiffReview
