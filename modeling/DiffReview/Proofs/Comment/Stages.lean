import DiffReview.Proofs.Comment.Precedence

/-!
# Merging in stages

The most severe comment at a location stays, and the earliest of those.  So a list and what merging
keeps of it bound the severities at each location alike, and comments that are merged in parts
first, and then together, come to the same as all comments at once.
-/

namespace DiffReview

open Number (Binary64)

namespace Comment

theorem merge_eq_merge (first second : Binary64) (comments : List Comment) :
    merge first comments = merge second comments := by
  rw [merge_eq_prevailing, merge_eq_prevailing]

/-- Where no location is repeated, all comments stay. -/
theorem merge_eq_self (threshold : Binary64) {comments : List Comment}
    (distinct : (comments.map location).Nodup) : merge threshold comments = comments := by
  have same_locations :
      ((merge threshold comments).map location).Perm (comments.map location) := by
    rw [List.perm_iff_count]
    intro spot
    rw [count_location_merge, distinct.count]
  apply (merge_sublist threshold comments).eq_of_length
  simpa using same_locations.length_eq

theorem merge_merge (outer inner : Binary64) (comments : List Comment) :
    merge outer (merge inner comments) = merge inner comments :=
  merge_eq_self outer (nodup_map_location_merge inner comments)

section Bounds

variable (within : Severity → Prop)
  (within_of_le : ∀ {less more : Severity}, less.rank ≤ more.rank → within more → within less)
include within_of_le

/-- What stays of some comments is as severe at each location as all of them. -/
theorem forall_merge_iff (threshold : Binary64) (comments : List Comment) (spot : String × Int) :
    (∀ comment ∈ merge threshold comments, comment.location = spot → within comment.severity) ↔
      ∀ comment ∈ comments, comment.location = spot → within comment.severity := by
  constructor
  · intro bounded comment mem same
    obtain ⟨winner, filter_eq, notLess⟩ := exists_filter_merge_eq_singleton threshold mem
    have found : winner ∈ (merge threshold comments).filter
        fun other => other.location == comment.location := by
      simp [filter_eq]
    obtain ⟨winner_mem, at_comment⟩ := List.mem_filter.mp found
    exact within_of_le notLess
      (bounded winner winner_mem ((beq_iff_eq.mp at_comment).trans same))
  · intro bounded comment mem
    exact bounded comment ((merge_sublist threshold comments).mem mem)

theorem forall_flatMap_merge_iff (parts : List (Binary64 × List Comment)) (spot : String × Int) :
    (∀ comment ∈ parts.flatMap fun (threshold, comments) => merge threshold comments,
        comment.location = spot → within comment.severity) ↔
      ∀ comment ∈ parts.flatMap Prod.snd,
        comment.location = spot → within comment.severity := by
  simp only [List.forall_mem_flatMap]
  exact forall₂_congr fun part _ => forall_merge_iff within within_of_le part.1 part.2 spot

end Bounds

theorem withstands_flatMap_merge_iff (comment : Comment)
    (parts : List (Binary64 × List Comment)) :
    comment.Withstands (parts.flatMap fun (threshold, comments) => merge threshold comments) ↔
      comment.Withstands (parts.flatMap Prod.snd) :=
  forall_flatMap_merge_iff (fun severity => severity.rank ≤ comment.severity.rank)
    Nat.le_trans parts comment.location

theorem surpasses_merge_iff (comment : Comment) (threshold : Binary64)
    (comments : List Comment) :
    comment.Surpasses (merge threshold comments) ↔ comment.Surpasses comments :=
  forall_merge_iff (fun severity => severity.rank < comment.severity.rank)
    Nat.lt_of_le_of_lt threshold comments comment.location

/-- What stays of the first list may be merged in its place, before others that are merged alike. -/
theorem merge_append_of_merge (inner : Binary64) (first : List Comment) {outer direct : Binary64}
    {staged others : List Comment} (same : merge outer staged = merge direct others)
    (bound : ∀ comment : Comment, comment.Withstands staged ↔ comment.Withstands others) :
    merge outer (merge inner first ++ staged) = merge direct (first ++ others) := by
  rw [merge_append, merge_append, same, merge_merge, merge_eq_merge inner direct]
  congr 1
  · apply List.filter_congr
    intro comment _
    exact decide_eq_decide.mpr (bound comment)
  · apply List.filter_congr
    intro comment _
    exact decide_eq_decide.mpr (surpasses_merge_iff comment direct first)

/-- Comments may be merged in any parts first, each with its own threshold, and what stays of the
parts may be merged then: the same comments stay, in the same order, as if all were merged at once.
To merge twice is to merge once. -/
theorem merge_in_stages (outer direct : Binary64) (parts : List (Binary64 × List Comment)) :
    merge outer (parts.flatMap fun (threshold, comments) => merge threshold comments) =
        merge direct (parts.flatMap Prod.snd) ∧
      ∀ (inner : Binary64) (comments : List Comment),
        merge outer (merge inner comments) = merge inner comments := by
  refine ⟨?_, merge_merge outer⟩
  induction parts with
  | nil => exact merge_eq_merge outer direct []
  | cons part parts induction =>
      obtain ⟨inner, comments⟩ := part
      exact merge_append_of_merge inner comments induction fun comment =>
        withstands_flatMap_merge_iff comment parts

end Comment

end DiffReview
