import DiffReview.Proofs.Isolation

/-!
# The order of the layers

Which comment stays at a location may depend on the order in which comments come, but only among the
most severe ones there: the locations and severities of what stays are the same in every order.
Comments at different locations do not see each other, so that only the order at each location
matters at all.
-/

namespace DiffReview

open Number (Binary64)

theorem Severity.eq_of_rank_eq {left right : Severity} (same : left.rank = right.rank) :
    left = right := by
  cases left <;> cases right <;> first | rfl | contradiction

namespace Comment

/-- The location and the severity of a comment. -/
def grade (comment : Comment) : (String × Int) × Severity :=
  (comment.location, comment.severity)

/-- All the most severe comments of the list at the location of the comment are equal to it. -/
structure LeadsAlone (comment : Comment) (comments : List Comment) : Prop where
  /-- The comment is in the list. -/
  mem : comment ∈ comments
  /-- No other one at its location is more severe. -/
  withstands : comment.Withstands comments
  /-- No other one at its location is equally severe. -/
  unique : ∀ other ∈ comments, other.location = comment.location →
    other.severity = comment.severity → other = comment

instance (comment : Comment) (comments : List Comment) :
    Decidable (comment.LeadsAlone comments) :=
  decidable_of_iff
    (comment ∈ comments ∧ comment.Withstands comments ∧
      ∀ other ∈ comments, other.location = comment.location →
        other.severity = comment.severity → other = comment)
    ⟨fun ⟨mem, withstands, unique⟩ => ⟨mem, withstands, unique⟩,
      fun ⟨mem, withstands, unique⟩ => ⟨mem, withstands, unique⟩⟩

/-! ## What stays in every order -/

theorem Withstands.of_subset {comment : Comment} {comments others : List Comment}
    (withstands : comment.Withstands comments) (subset : others ⊆ comments) :
    comment.Withstands others :=
  fun other mem => withstands other (subset mem)

theorem LeadsAlone.of_perm {comment : Comment} {comments others : List Comment}
    (leads : comment.LeadsAlone comments) (perm : comments.Perm others) :
    comment.LeadsAlone others where
  mem := perm.mem_iff.mp leads.mem
  withstands := leads.withstands.of_subset perm.symm.subset
  unique other mem := leads.unique other (perm.mem_iff.mpr mem)

/-- What stays has the location and the severity of a comment that no other one surpasses. -/
theorem mem_map_grade_merge_iff {threshold : Binary64} {comments : List Comment}
    {place : (String × Int) × Severity} :
    place ∈ (merge threshold comments).map grade ↔
      ∃ comment ∈ comments, comment.grade = place ∧ comment.Withstands comments := by
  rw [List.mem_map]
  constructor
  · rintro ⟨comment, stays, rfl⟩
    exact ⟨comment, (merge_sublist threshold comments).mem stays, rfl,
      withstands_of_mem_merge stays⟩
  · rintro ⟨comment, mem, rfl, withstands⟩
    obtain ⟨winner, filter_eq, notLess⟩ := exists_filter_merge_eq_singleton threshold mem
    have found : winner ∈ (merge threshold comments).filter
        fun other => other.location == comment.location := by
      simp [filter_eq]
    obtain ⟨winner_stays, same⟩ := List.mem_filter.mp found
    replace same : winner.location = comment.location := beq_iff_eq.mp same
    have notMore := withstands winner ((merge_sublist threshold comments).mem winner_stays) same
    exact ⟨winner, winner_stays,
      Prod.ext same (Severity.eq_of_rank_eq (Nat.le_antisymm notMore notLess))⟩

theorem perm_map_grade_merge (threshold : Binary64) {comments others : List Comment}
    (perm : comments.Perm others) :
    ((merge threshold comments).map grade).Perm ((merge threshold others).map grade) := by
  have nodup : ∀ list, ((merge threshold list).map grade).Nodup := by
    intro list
    apply List.Nodup.of_map Prod.fst
    rw [List.map_map]
    exact nodup_map_location_merge threshold list
  rw [List.perm_ext_iff_of_nodup (nodup comments) (nodup others)]
  intro place
  rw [mem_map_grade_merge_iff, mem_map_grade_merge_iff]
  constructor
  · rintro ⟨comment, mem, graded, withstands⟩
    exact ⟨comment, perm.mem_iff.mp mem, graded, withstands.of_subset perm.symm.subset⟩
  · rintro ⟨comment, mem, graded, withstands⟩
    exact ⟨comment, perm.mem_iff.mpr mem, graded, withstands.of_subset perm.subset⟩

theorem LeadsAlone.filter_merge_eq {comment : Comment} {comments : List Comment}
    (leads : comment.LeadsAlone comments) (threshold : Binary64) :
    (merge threshold comments).filter (fun other => other.location == comment.location) =
      [comment] := by
  obtain ⟨winner, stays, graded⟩ := List.mem_map.mp
    (mem_map_grade_merge_iff.mpr ⟨comment, leads.mem, rfl, leads.withstands⟩ :
      comment.grade ∈ (merge threshold comments).map grade)
  obtain ⟨same, equal⟩ := Prod.mk.inj graded
  obtain rfl :=
    leads.unique winner ((merge_sublist threshold comments).mem stays) same equal
  exact filter_merge_eq_singleton stays

/-- Only the order of the comments at each location matters. -/
theorem perm_merge_of_filter_eq (threshold : Binary64) {comments others : List Comment}
    (same_order : ∀ spot : String × Int,
      comments.filter (fun comment => comment.location == spot) =
        others.filter fun comment => comment.location == spot) :
    (merge threshold comments).Perm (merge threshold others) := by
  have nodup : ∀ list, (merge threshold list).Nodup :=
    fun list => (nodup_map_location_merge threshold list).of_map location
  rw [List.perm_ext_iff_of_nodup (nodup comments) (nodup others)]
  intro comment
  have at_location : ∀ list, comment ∈ merge threshold list ↔
      comment ∈ merge threshold
        (list.filter fun other => other.location == comment.location) := by
    intro list
    rw [merge_filter_location threshold (· == comment.location) list]
    simp
  rw [at_location comments, at_location others, same_order]

end Comment

/-! ## Layers in another order -/

namespace Pipeline

theorem flatten_returned_perm {pipeline : Pipeline} {layers : List Layer}
    (reordered : layers.Perm pipeline.layers) (diff : Diff) :
    ((pipeline.withLayers layers).returned diff).flatten.Perm (pipeline.returned diff).flatten :=
  (reordered.filterMap _).flatten

theorem isHalted_withLayers_iff {pipeline : Pipeline} {layers : List Layer}
    (reordered : layers.Perm pipeline.layers) :
    (pipeline.withLayers layers).IsHalted ↔ pipeline.IsHalted := by
  have emptiness : layers = [] ↔ pipeline.layers = [] :=
    ⟨fun none_there => (none_there ▸ reordered).nil_eq.symm,
      fun none_there => (none_there ▸ reordered).eq_nil⟩
  exact and_congr_left fun _ => not_congr emptiness

/-- The order of the layers only decides between comments of equal severity.  In every order the
comments that stay have the same locations and severities, and where all the most severe ones at a
location are equal, that one stays.  The same holds of any lists of comments; and as long as the
comments at each location keep their order, the very same comments stay.  A review that fails, as no
layer has time and that cannot be written, fails in every order. -/
theorem run_perm_layers (pipeline : Pipeline) (diff : Diff) :
    (∀ layers : List Layer, layers.Perm pipeline.layers →
      (pipeline.IsHalted →
        pipeline.run diff = Action.fail (.digits .writing) ∧
          (pipeline.withLayers layers).run diff = Action.fail (.digits .writing)) ∧
      (¬pipeline.IsHalted → ∃ comments others,
        (pipeline.run diff).outcome = .ok comments ∧
        ((pipeline.withLayers layers).run diff).outcome = .ok others ∧
        (others.map Comment.grade).Perm (comments.map Comment.grade) ∧
        others.length = comments.length ∧
        ∀ comment, comment.LeadsAlone (pipeline.returned diff).flatten →
          comments.filter (fun other => other.location == comment.location) = [comment] ∧
          others.filter (fun other => other.location == comment.location) = [comment])) ∧
    ∀ (threshold : Binary64) (comments others : List Comment), comments.Perm others →
      ((Comment.merge threshold comments).map Comment.grade).Perm
          ((Comment.merge threshold others).map Comment.grade) ∧
        ((∀ spot : String × Int,
          comments.filter (fun comment => comment.location == spot) =
            others.filter fun comment => comment.location == spot) →
          (Comment.merge threshold comments).Perm (Comment.merge threshold others)) := by
  refine ⟨fun layers reordered => ⟨?_, ?_⟩, ?_⟩
  · intro halted
    have others_halted := (isHalted_withLayers_iff reordered).mpr halted
    exact ⟨run_of_isHalted halted diff, run_of_isHalted others_halted diff⟩
  · intro runs
    have others_run : ¬(pipeline.withLayers layers).IsHalted :=
      mt (isHalted_withLayers_iff reordered).mp runs
    have perm := flatten_returned_perm reordered diff
    have grades := Comment.perm_map_grade_merge pipeline.threshold perm
    refine ⟨_, _, outcome_run runs diff, outcome_run others_run diff, grades, ?_, ?_⟩
    · have lengths := grades.length_eq
      rwa [List.length_map, List.length_map] at lengths
    · intro comment leads
      exact ⟨leads.filter_merge_eq _, (leads.of_perm perm.symm).filter_merge_eq _⟩
  · intro threshold comments others perm
    exact ⟨Comment.perm_map_grade_merge threshold perm,
      Comment.perm_merge_of_filter_eq threshold⟩

/-- Two layers disagree about one line in equal severity, and about another one in severity: turned
round, they still leave a warning at the first line, and the same error at the second. -/
theorem run_perm_two_layers :
    let early : Comment := { filename := "x", line := 1, body := "unused", severity := .warning }
    let late : Comment := { filename := "x", line := 1, body := "unclear", severity := .warning }
    let mild : Comment := { filename := "x", line := 2, body := "shadowed" }
    let severe : Comment := { filename := "x", line := 2, body := "unsafe", severity := .error }
    let first : Layer :=
      { kind := "Layer", name := "first", run := fun _ => { outcome := .ok [early, mild] } }
    let second : Layer :=
      { kind := "Layer", name := "second", run := fun _ => { outcome := .ok [late, severe] } }
    let pipeline : Pipeline := { layers := [first, second] }
    (∃ comments others,
      (pipeline.run {}).outcome = .ok comments ∧
      ((pipeline.withLayers [second, first]).run {}).outcome = .ok others ∧
      (others.map Comment.grade).Perm (comments.map Comment.grade) ∧
      comments.filter (fun comment => comment.location == ("x", 2)) = [severe] ∧
      others.filter (fun comment => comment.location == ("x", 2)) = [severe]) ∧
    (Comment.merge defaultThreshold [early, mild, severe]).Perm
      (Comment.merge defaultThreshold [mild, early, severe]) := by
  intro early late mild severe first second pipeline
  obtain ⟨ofLayers, ofComments⟩ := run_perm_layers pipeline {}
  have runs : ¬pipeline.IsHalted := not_isHalted_of_fractional rfl
  obtain ⟨comments, others, comments_eq, others_eq, grades, -, leading⟩ :=
    (ofLayers [second, first] (.swap first second [])).2 runs
  have returned_eq : (pipeline.returned {}).flatten = [early, mild, late, severe] := rfl
  rw [returned_eq] at leading
  obtain ⟨in_comments, in_others⟩ := leading severe (by decide)
  refine ⟨⟨comments, others, comments_eq, others_eq, grades, in_comments, in_others⟩, ?_⟩
  refine (ofComments defaultThreshold [early, mild, severe] [mild, early, severe]
    (.swap mild early [severe])).2 ?_
  intro spot
  by_cases at_early : early.location = spot
  · subst at_early
    rfl
  · have elsewhere : (early.location == spot) = false := beq_false_of_ne at_early
    simp only [List.filter_cons, elsewhere, Bool.false_eq_true, if_false]

end Pipeline

end DiffReview
