import DiffReview.Proofs.Comment.Merge

/-!
# Merging two lists

Where comments are appended to others, the earlier ones have precedence: an earlier comment stays
unless a more severe one follows at its location, and a later comment stays only if it is more
severe than all earlier ones there.  `merge_append` says so for whole lists; what is found at one
location follows from it.
-/

namespace DiffReview

open Number (Binary64)

namespace Comment

/-- No comment of the list is more severe at the same location. -/
def Withstands (comment : Comment) (others : List Comment) : Prop :=
  ∀ other ∈ others, other.location = comment.location →
    other.severity.rank ≤ comment.severity.rank

/-- All comments of the list at the same location are less severe. -/
def Surpasses (comment : Comment) (others : List Comment) : Prop :=
  ∀ other ∈ others, other.location = comment.location →
    other.severity.rank < comment.severity.rank

instance (comment : Comment) (others : List Comment) : Decidable (comment.Withstands others) :=
  inferInstanceAs (Decidable (∀ other ∈ others, _))

instance (comment : Comment) (others : List Comment) : Decidable (comment.Surpasses others) :=
  inferInstanceAs (Decidable (∀ other ∈ others, _))

theorem prevails_append_right_iff {before after others : List Comment} {comment : Comment} :
    Prevails before comment (after ++ others) ↔
      Prevails before comment after ∧ comment.Withstands others := by
  simp only [Prevails, Withstands, List.forall_mem_append, and_assoc]

theorem prevails_append_left_iff {before after others : List Comment} {comment : Comment} :
    Prevails (others ++ before) comment after ↔
      Prevails before comment after ∧ comment.Surpasses others := by
  simp only [Prevails, Surpasses, List.forall_mem_append]
  tauto

/-! ## The merged list -/

theorem prevailing_append (first others : List Comment) :
    prevailing (first ++ others) =
      (prevailing first).filter (fun entry => entry.1.Withstands others) ++
        ((prevailing others).filter fun entry => entry.1.Surpasses first).map
          fun (comment, position) => (comment, first.length + position) := by
  rw [prevailing, List.zipIdx_append, List.filter_append]
  congr 1
  · rw [prevailing, List.filter_filter]
    apply List.filter_congr
    rintro ⟨comment, position⟩ entry_mem
    rw [List.mk_mem_zipIdx_iff_getElem?] at entry_mem
    obtain ⟨inside, -⟩ := List.getElem?_eq_some_iff.mp entry_mem
    simp only [← Bool.decide_and, decide_eq_decide,
      List.take_append_of_le_length (Nat.le_of_lt inside), List.drop_append_of_le_length inside,
      prevails_append_right_iff]
    exact and_comm
  · rw [Nat.zero_add, List.zipIdx_eq_map_add, List.filter_map, prevailing, List.filter_filter]
    congr 1
    apply List.filter_congr
    rintro ⟨comment, position⟩ -
    simp only [Function.comp_apply, ← Bool.decide_and, decide_eq_decide, Nat.add_assoc,
      List.take_length_add_append, List.drop_length_add_append, prevails_append_left_iff]
    exact and_comm

/-- Where lists are merged one after the other, the earlier comments stay unless a later one is
more severe, and the later ones stay only if they are more severe. -/
theorem merge_append (threshold : Binary64) (first others : List Comment) :
    merge threshold (first ++ others) =
      (merge threshold first).filter (fun comment => comment.Withstands others) ++
        (merge threshold others).filter fun comment => comment.Surpasses first := by
  rw [merge_eq_prevailing, merge_eq_prevailing, merge_eq_prevailing, prevailing_append,
    List.map_append, List.map_map, List.filter_map, List.filter_map]
  rfl

theorem not_mem_of_surpasses {comment : Comment} {others : List Comment}
    (surpasses : comment.Surpasses others) : comment ∉ others :=
  fun mem => Nat.lt_irrefl _ (surpasses comment mem rfl)

theorem filter_mem_merge_append (threshold : Binary64) (first others : List Comment) :
    (merge threshold (first ++ others)).filter (fun comment => comment ∈ merge threshold first) =
      (merge threshold first).filter fun comment => comment.Withstands others := by
  have kept : ∀ comment ∈ (merge threshold first).filter fun comment => comment.Withstands others,
      decide (comment ∈ merge threshold first) = true := by
    intro comment mem
    exact decide_eq_true (List.mem_of_mem_filter mem)
  have lost : ∀ comment ∈ (merge threshold others).filter fun comment => comment.Surpasses first,
      ¬decide (comment ∈ merge threshold first) = true := by
    intro comment mem
    have surpasses := of_decide_eq_true (List.mem_filter.mp mem).2
    simpa using fun earlier =>
      not_mem_of_surpasses surpasses ((merge_sublist threshold first).mem earlier)
  rw [merge_append, List.filter_append, List.filter_eq_self.mpr kept,
    List.filter_eq_nil_iff.mpr lost, List.append_nil]

theorem mem_merge_append_iff_of_mem {threshold : Binary64} {first others : List Comment}
    {comment : Comment} (mem : comment ∈ merge threshold first) :
    comment ∈ merge threshold (first ++ others) ↔ comment.Withstands others := by
  have earlier : comment ∈ first := (merge_sublist threshold first).mem mem
  rw [merge_append, List.mem_append, List.mem_filter, List.mem_filter]
  constructor
  · rintro (⟨-, withstands⟩ | ⟨-, surpasses⟩)
    · exact of_decide_eq_true withstands
    · exact absurd earlier (not_mem_of_surpasses (of_decide_eq_true surpasses))
  · intro withstands
    exact .inl ⟨mem, decide_eq_true withstands⟩

/-- The comments of the first list that stay do so in the same order. -/
theorem filter_merge_append_comm (threshold : Binary64) (first others : List Comment) :
    (merge threshold (first ++ others)).filter (fun comment => comment ∈ merge threshold first) =
      (merge threshold first).filter fun comment =>
        comment ∈ merge threshold (first ++ others) := by
  rw [filter_mem_merge_append]
  apply List.filter_congr
  intro comment mem
  rw [decide_eq_decide]
  exact (mem_merge_append_iff_of_mem mem).symm

/-! ## One location -/

theorem mem_map_location_merge_iff {threshold : Binary64} {comments : List Comment}
    {spot : String × Int} :
    spot ∈ (merge threshold comments).map location ↔ spot ∈ comments.map location := by
  rw [← List.count_pos_iff, count_location_merge]
  split <;> simp [*]

theorem filter_merge_eq_singleton {threshold : Binary64} {comments : List Comment}
    {comment : Comment} (mem : comment ∈ merge threshold comments) :
    (merge threshold comments).filter (fun other => other.location == comment.location) =
      [comment] := by
  obtain ⟨winner, filter_eq, -⟩ :=
    exists_filter_merge_eq_singleton threshold ((merge_sublist threshold comments).mem mem)
  have found : comment ∈ (merge threshold comments).filter
      fun other => other.location == comment.location := by
    simp [mem]
  rw [filter_eq, List.mem_singleton] at found
  rw [filter_eq, ← found]

theorem withstands_of_mem_merge {threshold : Binary64} {comments : List Comment}
    {comment : Comment} (mem : comment ∈ merge threshold comments) :
    comment.Withstands comments := by
  obtain ⟨before, after, rfl, less, notMore⟩ := mem_merge_iff.mp mem
  intro other other_mem same
  rcases List.mem_append.mp other_mem with earlier | other_mem
  · exact Nat.le_of_lt (less other earlier same)
  · rcases List.mem_cons.mp other_mem with rfl | later
    · exact Nat.le_refl _
    · exact notMore other later same

/-- A comment that stays in the first list is found again, or else the first of the more severe
comments of the second list is found in its place. -/
theorem filter_merge_append_of_mem {threshold : Binary64} {first others : List Comment}
    {comment : Comment} (mem : comment ∈ merge threshold first) :
    (comment.Withstands others →
      (merge threshold (first ++ others)).filter (fun other => other.location == comment.location) =
        [comment]) ∧
    (¬comment.Withstands others →
      ∃ before winner after, others = before ++ winner :: after ∧
        winner.location = comment.location ∧ Prevails before winner after ∧
          (merge threshold (first ++ others)).filter
            (fun other => other.location == comment.location) = [winner]) := by
  constructor
  · intro withstands
    exact filter_merge_eq_singleton ((mem_merge_append_iff_of_mem mem).mpr withstands)
  · intro surpassed
    obtain ⟨rival, rival_mem, same, more⟩ : ∃ rival ∈ others,
        rival.location = comment.location ∧
          comment.severity.rank < rival.severity.rank := by
      simpa [Withstands] using surpassed
    obtain ⟨winner, filter_eq, rival_le⟩ := exists_filter_merge_eq_singleton threshold rival_mem
    have found : winner ∈ (merge threshold others).filter
        fun other => other.location == rival.location := by
      simp [filter_eq]
    obtain ⟨winner_mem, at_rival⟩ := List.mem_filter.mp found
    have at_comment : winner.location = comment.location :=
      (beq_iff_eq.mp at_rival).trans same
    have surpasses : winner.Surpasses first := by
      intro earlier earlier_mem earlier_same
      have earlier_le := withstands_of_mem_merge mem earlier earlier_mem
        (earlier_same.trans at_comment)
      omega
    have stays : winner ∈ merge threshold (first ++ others) := by
      rw [merge_append]
      exact List.mem_append_right _ (List.mem_filter.mpr ⟨winner_mem, decide_eq_true surpasses⟩)
    obtain ⟨before, after, others_eq, prevails⟩ := mem_merge_iff.mp winner_mem
    refine ⟨before, winner, after, others_eq, at_comment, prevails, ?_⟩
    rw [← at_comment]
    exact filter_merge_eq_singleton stays

/-- Where the first list has no comment, the second one is merged as if it were alone. -/
theorem filter_merge_append_of_not_mem {threshold : Binary64} {first others : List Comment}
    {spot : String × Int} (absent : spot ∉ (merge threshold first).map location) :
    (merge threshold (first ++ others)).filter (fun comment => comment.location == spot) =
      (merge threshold others).filter fun comment => comment.location == spot := by
  rw [mem_map_location_merge_iff, List.mem_map, not_exists] at absent
  have elsewhere : ∀ comment ∈ first, comment.location ≠ spot :=
    fun comment mem same => absent comment ⟨mem, same⟩
  rw [merge_append, List.filter_append, List.filter_filter, List.filter_filter]
  have nothing : (merge threshold first).filter (fun comment =>
      comment.location == spot && decide (comment.Withstands others)) = [] := by
    rw [List.filter_eq_nil_iff]
    intro comment mem
    simp [elsewhere comment ((merge_sublist threshold first).mem mem)]
  rw [nothing, List.nil_append]
  apply List.filter_congr
  intro comment mem
  by_cases same : comment.location = spot
  · have surpasses : comment.Surpasses first :=
      fun earlier earlier_mem equal => absurd (equal.trans same) (elsewhere earlier earlier_mem)
    simp [surpasses]
  · simp [same]

/-! ## Comments of equal severity -/

theorem merge_singleton (threshold : Binary64) (comment : Comment) :
    merge threshold [comment] = [comment] := by
  have prevails : Prevails [] comment [] := ⟨by simp, by simp⟩
  rw [merge_eq_prevailing, prevailing, List.zipIdx_singleton, List.filter_singleton]
  exact congrArg (fun kept => ((bif kept then [(comment, 0)] else []).map Prod.fst))
    (decide_eq_true prevails)

theorem merge_cons (threshold : Binary64) (first : Comment) (others : List Comment) :
    merge threshold (first :: others) =
      (if first.Withstands others then [first] else []) ++
        (merge threshold others).filter fun comment => comment.Surpasses [first] := by
  have split := merge_append threshold [first] others
  rw [List.singleton_append, merge_singleton, List.filter_singleton, Bool.cond_decide] at split
  exact split

/-- Comments at other locations have no influence on what stays. -/
theorem merge_filter_location (threshold : Binary64) (kept : String × Int → Bool)
    (comments : List Comment) :
    merge threshold (comments.filter fun comment => kept comment.location) =
      (merge threshold comments).filter fun comment => kept comment.location := by
  induction comments with
  | nil =>
      rw [List.filter_nil, merge_eq_prevailing]
      rfl
  | cons first others induction =>
      rw [merge_cons, List.filter_append]
      by_cases first_kept : kept first.location = true
      · have withstands_iff :
            first.Withstands (others.filter fun comment => kept comment.location) ↔
              first.Withstands others := by
          constructor
          · intro withstands other mem same
            exact withstands other (List.mem_filter.mpr ⟨mem, by rwa [same]⟩) same
          · intro withstands other mem same
            exact withstands other (List.mem_of_mem_filter mem) same
        rw [List.filter_cons_of_pos (by exact first_kept), merge_cons, induction,
          if_congr withstands_iff rfl rfl]
        congr 1
        · split <;> simp [first_kept]
        · exact List.filter_comm _ _ _
      · have surpasses : ∀ comment : Comment, kept comment.location = true →
            comment.Surpasses [first] := by
          intro comment comment_kept other mem same
          rw [List.mem_singleton.mp mem] at same
          exact absurd (same ▸ comment_kept) first_kept
        have first_lost : ((if first.Withstands others then [first] else []).filter
            fun comment => kept comment.location) = [] := by
          split <;> simp [first_kept]
        rw [List.filter_cons_of_neg (by exact first_kept), induction, first_lost, List.nil_append,
          List.filter_filter]
        refine List.filter_congr fun comment _ => ?_
        by_cases comment_kept : kept comment.location = true
        · simp [comment_kept, surpasses comment comment_kept]
        · simp [comment_kept]

/-- Where all comments are equally severe, the first one at each location stays. -/
theorem merge_map_of_equal_severity {α : Type} (threshold : Binary64) {comment : α → Comment}
    {severity : Severity} (equal : ∀ item, (comment item).severity = severity) (items : List α) :
    merge threshold (items.map comment) =
      (items.eraseDupsBy fun left right =>
        (comment left).location == (comment right).location).map comment := by
  cases items with
  | nil =>
      rw [List.map_nil, merge_eq_prevailing]
      rfl
  | cons first others =>
      have withstands : (comment first).Withstands (others.map comment) := by
        intro other mem _
        obtain ⟨item, -, rfl⟩ := List.mem_map.mp mem
        exact Nat.le_of_eq (congrArg Severity.rank ((equal item).trans (equal first).symm))
      have elsewhere : ∀ other ∈ merge threshold (others.map comment),
          decide (other.Surpasses [comment first]) =
            !other.location == (comment first).location := by
        intro other mem
        obtain ⟨item, -, rfl⟩ := List.mem_map.mp ((merge_sublist _ _).mem mem)
        have surpasses_iff : (comment item).Surpasses [comment first] ↔
            ¬(comment item).location = (comment first).location := by
          rw [Surpasses, List.forall_mem_singleton, equal, equal]
          exact ⟨fun surpasses same => Nat.lt_irrefl _ (surpasses same.symm),
            fun apart same => absurd same.symm apart⟩
        rw [Bool.eq_iff_iff, decide_eq_true_iff, surpasses_iff, Bool.not_eq_true',
          beq_eq_false_iff_ne]
      have later := merge_map_of_equal_severity threshold equal
        (others.filter fun item => !(comment item).location == (comment first).location)
      rw [List.map_cons, merge_cons, if_pos withstands, List.filter_congr elsewhere,
        ← merge_filter_location threshold (fun spot => !spot == (comment first).location),
        List.filter_map, List.eraseDupsBy_cons, List.map_cons]
      simp only [Bool.decide_eq_false]
      exact congrArg (comment first :: ·) later
termination_by items.length
decreasing_by exact Nat.lt_succ_of_le (List.length_filter_le _ _)

end Comment

end DiffReview
