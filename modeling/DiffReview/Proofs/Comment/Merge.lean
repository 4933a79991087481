import DiffReview.Proofs.Comment.Cluster
import Mathlib.Data.List.Dedup

/-!
# What merging keeps

Merging is defined by groups, clusters and a sort, but its result has a plain description: a comment
stays exactly if, at its location, every earlier comment is less severe and no later comment is more
severe.  Neither the threshold nor what the comments say has any influence.
-/

namespace DiffReview

open Number (Binary64)

theorem nodup_eraseDups {α : Type*} [BEq α] [LawfulBEq α] (items : List α) :
    items.eraseDups.Nodup := by
  induction items using List.reverseRecOn with
  | nil => simp
  | append_singleton items item induction =>
      rw [List.eraseDups_append]
      by_cases repeated : item ∈ items
      · have nothing : [item].removeAll items = [] := by simp [List.removeAll, repeated]
        simpa [nothing] using induction
      · have itself : [item].removeAll items = [item] := by simp [List.removeAll, repeated]
        rw [itself, List.nodup_append]
        refine ⟨induction, by simp [List.eraseDups_cons], ?_⟩
        intro kept kept_mem other other_mem equal
        have other_eq : other = item := by simpa [List.eraseDups_cons] using other_mem
        rw [List.mem_eraseDups, equal, other_eq] at kept_mem
        exact repeated kept_mem

namespace Comment

/-! ## The comments that prevail -/

/-- A comment prevails over those before it and those after it: of those at its location, the ones
before are less severe, and the ones after are not more severe. -/
def Prevails (before : List Comment) (comment : Comment) (after : List Comment) : Prop :=
  (∀ earlier ∈ before, earlier.location = comment.location →
      earlier.severity.rank < comment.severity.rank) ∧
    ∀ later ∈ after, later.location = comment.location →
      later.severity.rank ≤ comment.severity.rank

instance (before : List Comment) (comment : Comment) (after : List Comment) :
    Decidable (Prevails before comment after) :=
  inferInstanceAs (Decidable (_ ∧ _))

/-- The comments that prevail over all others, with their positions, in order. -/
def prevailing (comments : List Comment) : List (Comment × Nat) :=
  comments.zipIdx.filter fun (comment, position) =>
    Prevails (comments.take position) comment (comments.drop (position + 1))

theorem mem_prevailing_iff {comments : List Comment} {comment : Comment} {position : Nat} :
    (comment, position) ∈ prevailing comments ↔
      comments[position]? = some comment ∧
        Prevails (comments.take position) comment (comments.drop (position + 1)) := by
  simp [prevailing, List.mk_mem_zipIdx_iff_getElem?]

/-- To prevail is a condition on each other comment at the same location and its position. -/
theorem prevails_take_drop_iff {comments : List Comment} {comment : Comment} {position : Nat} :
    Prevails (comments.take position) comment (comments.drop (position + 1)) ↔
      ∀ index entry, comments[index]? = some entry → entry.location = comment.location →
        (index < position → entry.severity.rank < comment.severity.rank) ∧
          (position < index → entry.severity.rank ≤ comment.severity.rank) := by
  constructor
  · rintro ⟨before, after⟩ index entry entry_eq same
    constructor
    · intro earlier
      refine before entry (List.mem_iff_getElem?.mpr ⟨index, ?_⟩) same
      rw [List.getElem?_take_of_lt earlier, entry_eq]
    · intro later
      refine after entry (List.mem_iff_getElem?.mpr ⟨index - (position + 1), ?_⟩) same
      rw [List.getElem?_drop, Nat.add_sub_cancel' later, entry_eq]
  · intro apart
    constructor
    · intro earlier earlier_mem same
      obtain ⟨index, earlier_eq⟩ := List.mem_iff_getElem?.mp earlier_mem
      rw [List.getElem?_take] at earlier_eq
      split at earlier_eq
      · exact (apart index earlier earlier_eq same).1 ‹_›
      · contradiction
    · intro later later_mem same
      obtain ⟨index, later_eq⟩ := List.mem_iff_getElem?.mp later_mem
      rw [List.getElem?_drop] at later_eq
      exact (apart _ later later_eq same).2 (by omega)

/-! ## Groups -/

theorem mem_place_iff {comments : List Comment} {placed : Placed} :
    placed ∈ place comments ↔ comments[placed.1]? = some placed.2 := by
  obtain ⟨position, comment⟩ := placed
  simp [place, List.mk_mem_zipIdx_iff_getElem?]

theorem isOrdered_place (comments : List Comment) : Placed.IsOrdered (place comments) := by
  rw [Placed.IsOrdered, ← List.pairwise_map (f := Prod.fst) (R := (· < ·))]
  have positions : (place comments).map Prod.fst = comments.zipIdx.map Prod.snd := by
    rw [place, List.map_map]
    rfl
  rw [positions, List.zipIdx_map_snd]
  exact List.pairwise_lt_range'

/-- The comments at a location, with their positions. -/
def group (comments : List Comment) (location : String × Int) : List Placed :=
  (place comments).filter fun placed => placed.2.location == location

theorem mem_group_iff {comments : List Comment} {location : String × Int} {placed : Placed} :
    placed ∈ group comments location ↔
      comments[placed.1]? = some placed.2 ∧ placed.2.location = location := by
  simp [group, mem_place_iff]

theorem isOrdered_group (comments : List Comment) (location : String × Int) :
    Placed.IsOrdered (group comments location) :=
  (isOrdered_place comments).filter _

/-- The best comment of the group at its location is the one that prevails. -/
theorem isBest_group_iff {comments : List Comment} {comment : Comment} {position : Nat} :
    Placed.IsBest (group comments comment.location) (position, comment) ↔
      comments[position]? = some comment ∧
        Prevails (comments.take position) comment (comments.drop (position + 1)) := by
  rw [prevails_take_drop_iff]
  constructor
  · rintro ⟨mem, unbeaten⟩
    refine ⟨(mem_group_iff.mp mem).1, ?_⟩
    intro index entry entry_eq same
    have entry_unbeaten := unbeaten (index, entry) (mem_group_iff.mpr ⟨entry_eq, same⟩)
    rw [Placed.not_beats_iff] at entry_unbeaten
    simp only at entry_unbeaten
    omega
  · rintro ⟨comment_eq, apart⟩
    refine ⟨mem_group_iff.mpr ⟨comment_eq, rfl⟩, ?_⟩
    rintro ⟨index, entry⟩ entry_mem
    obtain ⟨entry_eq, same⟩ := mem_group_iff.mp entry_mem
    have entry_apart := apart index entry entry_eq same
    rw [Placed.not_beats_iff]
    simp only at entry_eq ⊢
    rcases Nat.lt_trichotomy index position with earlier | rfl | later
    · omega
    · rw [entry_eq] at comment_eq
      obtain rfl := Option.some.inj comment_eq
      omega
    · omega

/-! ## Survivors -/

theorem survivor?_eq_some_iff {threshold : Binary64} {comments : List Comment}
    {location : String × Int} {placed : Placed} :
    survivor? threshold comments location = some placed ↔
      Placed.IsBest (group comments location) placed :=
  Placed.best?_representatives_eq_some_iff (isOrdered_group comments location)

theorem mem_locations_iff {comments : List Comment} {location : String × Int} :
    location ∈ locations comments ↔ ∃ comment ∈ comments, comment.location = location := by
  simp [locations, List.mem_eraseDups]

/-- Each location of a comment has a survivor, and it is one of its own comments. -/
theorem exists_survivor? (threshold : Binary64) {comments : List Comment}
    {location : String × Int} (mem : location ∈ locations comments) :
    ∃ placed, survivor? threshold comments location = some placed ∧
      placed.2.location = location := by
  obtain ⟨comment, comment_mem, same⟩ := mem_locations_iff.mp mem
  obtain ⟨position, comment_eq⟩ := List.mem_iff_getElem?.mp comment_mem
  have group_mem : (position, comment) ∈ group comments location :=
    mem_group_iff.mpr ⟨comment_eq, same⟩
  obtain ⟨best, found⟩ := Placed.exists_best?_of_ne_nil (List.ne_nil_of_mem group_mem)
  have isBest := Placed.isBest_of_best? found
  exact ⟨best, survivor?_eq_some_iff.mpr isBest, (mem_group_iff.mp isBest.mem).2⟩

/-- The comments that stay, in the order of the first comments at their locations. -/
def survivors (threshold : Binary64) (comments : List Comment) : List Placed :=
  (locations comments).filterMap (survivor? threshold comments)

theorem mem_survivors_iff {threshold : Binary64} {comments : List Comment} {placed : Placed} :
    placed ∈ survivors threshold comments ↔ (placed.2, placed.1) ∈ prevailing comments := by
  rw [survivors, List.mem_filterMap, mem_prevailing_iff, ← isBest_group_iff]
  constructor
  · rintro ⟨location, -, survives⟩
    have isBest := survivor?_eq_some_iff.mp survives
    obtain rfl := (mem_group_iff.mp isBest.mem).2
    exact isBest
  · intro isBest
    obtain ⟨comment_eq, -⟩ := mem_group_iff.mp isBest.mem
    refine ⟨placed.2.location, ?_, survivor?_eq_some_iff.mpr isBest⟩
    exact mem_locations_iff.mpr ⟨placed.2, List.mem_of_getElem? comment_eq, rfl⟩

private theorem map_filterMap_eq_self {α β : Type*} {items : List α} {pick : α → Option β}
    {back : β → α}
    (total : ∀ item ∈ items, ∃ picked, pick item = some picked ∧ back picked = item) :
    (items.filterMap pick).map back = items := by
  induction items with
  | nil => rfl
  | cons first others induction =>
      obtain ⟨picked, pick_eq, back_eq⟩ := total first (by simp)
      rw [List.filterMap_cons_some pick_eq, List.map_cons, back_eq,
        induction fun item mem => total item (List.mem_cons_of_mem _ mem)]

/-- There is one survivor for each location. -/
theorem map_location_survivors (threshold : Binary64) (comments : List Comment) :
    (survivors threshold comments).map (fun placed => placed.2.location) = locations comments :=
  map_filterMap_eq_self fun _ => exists_survivor? threshold

theorem nodup_survivors (threshold : Binary64) (comments : List Comment) :
    (survivors threshold comments).Nodup := by
  apply List.Nodup.of_map fun placed => placed.2.location
  rw [map_location_survivors]
  exact nodup_eraseDups (comments.map location)

/-! ## The merged comments -/

private theorem mergeSort_eq_of_isOrdered {entries ordered : List Placed}
    (isOrdered : Placed.IsOrdered ordered) (nodup : entries.Nodup)
    (same : ∀ placed, placed ∈ entries ↔ placed ∈ ordered) :
    (entries.mergeSort fun left right => left.1 ≤ right.1) = ordered := by
  have nodup_ordered : ordered.Nodup :=
    isOrdered.imp fun before equal => Nat.ne_of_lt before (congrArg Prod.fst equal)
  have sorted : (entries.mergeSort fun left right => left.1 ≤ right.1).Pairwise
      fun left right => decide (left.1 ≤ right.1) = true := by
    apply List.pairwise_mergeSort
    · intro first second third left right
      simp only [decide_eq_true_eq] at left right ⊢
      exact Nat.le_trans left right
    · intro left right
      simpa using Nat.le_total left.1 right.1
  refine @List.Perm.eq_of_pairwise _ (fun left right : Placed => left.1 ≤ right.1) _ _ ?_ ?_ ?_ ?_
  · intro left right left_mem right_mem left_le right_le
    rw [List.mem_mergeSort, same] at left_mem
    exact isOrdered.eq_of_position_eq left_mem right_mem (Nat.le_antisymm left_le right_le)
  · simpa using sorted
  · exact isOrdered.imp Nat.le_of_lt
  · refine (List.mergeSort_perm _ _).trans ?_
    exact (List.perm_ext_iff_of_nodup nodup nodup_ordered).mpr same

theorem isOrdered_swap_prevailing (comments : List Comment) :
    Placed.IsOrdered ((prevailing comments).map Prod.swap) := by
  have sublist : ((prevailing comments).map Prod.swap).Sublist (place comments) :=
    List.filter_sublist.map Prod.swap
  exact (isOrdered_place comments).sublist sublist

/-- Merging keeps exactly the comments that prevail, in their order. -/
theorem merge_eq_prevailing (threshold : Binary64) (comments : List Comment) :
    merge threshold comments = (prevailing comments).map Prod.fst := by
  have same : ∀ placed,
      placed ∈ survivors threshold comments ↔ placed ∈ (prevailing comments).map Prod.swap := by
    rintro ⟨position, comment⟩
    rw [mem_survivors_iff]
    simp
  have sorted := mergeSort_eq_of_isOrdered (isOrdered_swap_prevailing comments)
    (nodup_survivors threshold comments) same
  calc
    merge threshold comments = ((prevailing comments).map Prod.swap).map Prod.snd := by
      rw [← sorted]
      rfl
    _ = (prevailing comments).map Prod.fst := by
      rw [List.map_map]
      rfl

theorem merge_sublist (threshold : Binary64) (comments : List Comment) :
    (merge threshold comments).Sublist comments := by
  have sublist : (prevailing comments).Sublist comments.zipIdx := List.filter_sublist
  rw [merge_eq_prevailing]
  simpa using sublist.map Prod.fst

/-- Another wording of the comments changes neither which of them prevail nor where they stand. -/
theorem prevailing_reworded (comments : List Comment) (bodies : Nat → String) :
    prevailing (comments.mapIdx fun position comment => { comment with body := bodies position }) =
      (prevailing comments).map fun (comment, position) =>
        ({ comment with body := bodies position }, position) := by
  have reworded_zipIdx :
      (comments.mapIdx fun position comment =>
          { comment with body := bodies position }).zipIdx =
        comments.zipIdx.map fun (comment, position) =>
          ({ comment with body := bodies position }, position) := by
    apply List.ext_getElem?
    intro index
    cases entry_eq : comments[index]? <;> simp [List.getElem?_zipIdx, entry_eq]
  rw [prevailing, reworded_zipIdx, List.filter_map, prevailing]
  congr 1
  apply List.filter_congr
  rintro ⟨comment, position⟩ -
  simp only [Function.comp_apply, prevails_take_drop_iff, decide_eq_decide]
  constructor
  · intro apart index entry entry_eq same
    exact apart index { entry with body := bodies index } (by simp [entry_eq]) same
  · intro apart index entry entry_eq same
    rw [List.getElem?_mapIdx, Option.map_eq_some_iff] at entry_eq
    obtain ⟨original, original_eq, rfl⟩ := entry_eq
    exact apart index original original_eq same

/-- The locations of the comments that stay are the locations of all comments, once each. -/
theorem count_location_merge (threshold : Binary64) (comments : List Comment)
    (spot : String × Int) :
    ((merge threshold comments).map location).count spot =
      if spot ∈ comments.map location then 1 else 0 := by
  have perm : ((merge threshold comments).map location).Perm (locations comments) := by
    rw [← map_location_survivors threshold, merge, List.map_map]
    exact (List.mergeSort_perm _ _).map _
  have nodup : (locations comments).Nodup := nodup_eraseDups (comments.map location)
  rw [perm.count_eq, nodup.count]
  simp [mem_locations_iff]

theorem nodup_map_location_merge (threshold : Binary64) (comments : List Comment) :
    ((merge threshold comments).map location).Nodup := by
  rw [List.nodup_iff_count_le_one]
  intro spot
  rw [count_location_merge]
  split <;> decide

theorem mem_merge_iff {threshold : Binary64} {comments : List Comment} {comment : Comment} :
    comment ∈ merge threshold comments ↔
      ∃ before after, comments = before ++ comment :: after ∧ Prevails before comment after := by
  rw [merge_eq_prevailing, List.mem_map]
  constructor
  · rintro ⟨⟨comment, position⟩, mem, rfl⟩
    obtain ⟨comment_eq, prevails⟩ := mem_prevailing_iff.mp mem
    obtain ⟨inside, comment_eq⟩ := List.getElem?_eq_some_iff.mp comment_eq
    refine ⟨_, _, ?_, prevails⟩
    rw [← comment_eq, List.getElem_cons_drop, List.take_append_drop]
  · rintro ⟨before, after, rfl, prevails⟩
    refine ⟨(comment, before.length), mem_prevailing_iff.mpr ⟨by simp, ?_⟩, rfl⟩
    simpa [List.drop_append, List.drop_eq_nil_of_le (Nat.le_succ _)] using prevails

/-- Exactly one comment stays at the location of a comment, and it is at least as severe. -/
theorem exists_filter_merge_eq_singleton (threshold : Binary64) {comments : List Comment}
    {comment : Comment} (mem : comment ∈ comments) :
    ∃ winner,
      (merge threshold comments).filter (fun other => other.location == comment.location) =
          [winner] ∧
        comment.severity.rank ≤ winner.severity.rank := by
  have single := count_location_merge threshold comments comment.location
  rw [if_pos (List.mem_map_of_mem mem), List.count_eq_countP, List.countP_map,
    List.countP_eq_length_filter, List.length_eq_one_iff] at single
  obtain ⟨winner, filter_eq⟩ := single
  refine ⟨winner, by simpa [Function.comp_def] using filter_eq, ?_⟩
  have winner_mem : winner ∈ (merge threshold comments).filter
      ((fun place => place == comment.location) ∘ location) := by
    simp [filter_eq]
  obtain ⟨winner_mem, same⟩ := List.mem_filter.mp winner_mem
  replace same : winner.location = comment.location := by simpa using same
  obtain ⟨before, after, rfl, before_less, after_le⟩ := mem_merge_iff.mp winner_mem
  rcases List.mem_append.mp mem with earlier | mem
  · exact Nat.le_of_lt (before_less comment earlier same.symm)
  rcases List.mem_cons.mp mem with rfl | later
  · exact Nat.le_refl _
  · exact after_le comment later same.symm

/-- A comment that stays comes from the first part of a list if that part has one at least as severe
at the same location. -/
theorem mem_left_of_mem_merge_append {threshold : Binary64} {first others : List Comment}
    {winner rival : Comment} (mem : winner ∈ merge threshold (first ++ others))
    (rival_mem : rival ∈ first) (same : rival.location = winner.location)
    (notLess : winner.severity.rank ≤ rival.severity.rank) : winner ∈ first := by
  obtain ⟨before, after, split, before_less, -⟩ := mem_merge_iff.mp mem
  have rival_after : rival ∉ before := by
    intro earlier
    have less := before_less rival earlier same
    omega
  rcases List.append_eq_append_iff.mp split with ⟨gap, rfl, -⟩ | ⟨tail, rfl, tail_eq⟩
  · exact absurd (List.mem_append_left gap rival_mem) rival_after
  · cases tail with
    | nil => exact absurd (by simpa using rival_mem) rival_after
    | cons head tail =>
        obtain ⟨rfl, -⟩ := List.cons.inj tail_eq
        simp

/-- What merging keeps depends on positions, locations and severities alone: of the comments at a
location, the first of the most severe. -/
theorem merge_keeps_first_most_severe (threshold : Binary64) (comments : List Comment) :
    merge threshold comments = (prevailing comments).map Prod.fst ∧
      (∀ (other : Binary64) (bodies : Nat → String),
        merge other
            (comments.mapIdx fun position comment => { comment with body := bodies position }) =
          (prevailing comments).map fun (comment, position) =>
            { comment with body := bodies position }) ∧
      (∀ spot : String × Int,
        ((merge threshold comments).map location).count spot =
          if spot ∈ comments.map location then 1 else 0) ∧
      (merge threshold comments).Sublist comments := by
  refine ⟨merge_eq_prevailing threshold comments, ?_, count_location_merge threshold comments,
    merge_sublist threshold comments⟩
  intro other bodies
  rw [merge_eq_prevailing, prevailing_reworded, List.map_map]
  rfl

end Comment

end DiffReview
