import DiffReview.Comment.Merge
import Mathlib.Data.List.Induction
import Mathlib.Data.List.Nodup
import Mathlib.Data.List.Pairwise

/-!
# The best comment of a group survives clustering

However comments are gathered into clusters, no comment is preferred to all representatives.  The
invariant `Represents` says so for the clusters built so far; it holds for any threshold, because a
comment that joins a cluster either takes over as its representative or is beaten by it.
-/

namespace DiffReview

open Number (Binary64)

namespace Placed

theorem beats_iff {candidate current : Placed} :
    candidate.beats current = true ↔
      current.2.severity.rank < candidate.2.severity.rank ∨
        (candidate.2.severity.rank = current.2.severity.rank ∧ candidate.1 < current.1) := by
  simp [beats]

theorem not_beats_iff {candidate current : Placed} :
    candidate.beats current = false ↔
      candidate.2.severity.rank < current.2.severity.rank ∨
        (candidate.2.severity.rank = current.2.severity.rank ∧ current.1 ≤ candidate.1) := by
  rw [← Bool.not_eq_true, beats_iff]
  omega

theorem not_beats_self (placed : Placed) : placed.beats placed = false := by
  simp [not_beats_iff]

theorem not_beats_trans {first second third : Placed} (left : first.beats second = false)
    (right : second.beats third = false) : first.beats third = false := by
  rw [not_beats_iff] at left right ⊢
  omega

/-- A comment that beats another one is not beaten by it. -/
theorem not_beats_of_beats {winner loser : Placed} (beats : winner.beats loser = true) :
    loser.beats winner = false := by
  rw [beats_iff] at beats
  rw [not_beats_iff]
  omega

/-- A comment of a group to which no comment of the group is preferred. -/
structure IsBest (group : List Placed) (best : Placed) : Prop where
  /-- The comment belongs to the group. -/
  mem : best ∈ group
  /-- No comment of the group beats it. -/
  unbeaten : ∀ entry ∈ group, entry.beats best = false

/-- Comments that stand in the order of their positions. -/
abbrev IsOrdered (group : List Placed) : Prop :=
  group.Pairwise fun earlier later => earlier.1 < later.1

theorem IsOrdered.eq_of_position_eq {group : List Placed} (ordered : IsOrdered group)
    {left right : Placed} (left_mem : left ∈ group) (right_mem : right ∈ group)
    (position_eq : left.1 = right.1) : left = right := by
  have distinct : (group.map Prod.fst).Nodup :=
    List.pairwise_map.mpr (ordered.imp fun before => Nat.ne_of_lt before)
  exact List.inj_on_of_nodup_map distinct left_mem right_mem position_eq

theorem IsBest.unique {group : List Placed} (ordered : IsOrdered group) {left right : Placed}
    (left_best : IsBest group left) (right_best : IsBest group right) : left = right := by
  have left_unbeaten := left_best.unbeaten right right_best.mem
  have right_unbeaten := right_best.unbeaten left left_best.mem
  rw [not_beats_iff] at left_unbeaten right_unbeaten
  apply ordered.eq_of_position_eq left_best.mem right_best.mem
  omega

private theorem isBest_foldl (first : Placed) (others : List Placed) :
    IsBest (first :: others)
      (others.foldl (fun current candidate =>
        if candidate.beats current then candidate else current) first) := by
  induction others generalizing first with
  | nil => exact ⟨by simp, by simp [not_beats_self]⟩
  | cons next others induction =>
      rw [List.foldl_cons]
      by_cases beats : next.beats first = true
      · rw [if_pos beats]
        obtain ⟨mem, unbeaten⟩ := induction next
        refine ⟨List.mem_cons_of_mem _ mem, ?_⟩
        intro entry entry_mem
        rcases List.mem_cons.mp entry_mem with rfl | entry_mem
        · exact not_beats_trans (not_beats_of_beats beats) (unbeaten next (by simp))
        · exact unbeaten entry entry_mem
      · rw [if_neg beats]
        obtain ⟨mem, unbeaten⟩ := induction first
        refine ⟨by grind, ?_⟩
        intro entry entry_mem
        rcases List.mem_cons.mp entry_mem with rfl | entry_mem
        · exact unbeaten entry (by simp)
        rcases List.mem_cons.mp entry_mem with rfl | entry_mem
        · exact not_beats_trans (by simpa using beats) (unbeaten first (by simp))
        · exact unbeaten entry (List.mem_cons_of_mem _ entry_mem)

theorem isBest_of_best? {group : List Placed} {best : Placed} (found : best? group = some best) :
    IsBest group best := by
  cases group with
  | nil => simp [best?] at found
  | cons first others =>
      obtain rfl := Option.some.inj found
      exact isBest_foldl first others

theorem exists_best?_of_ne_nil {group : List Placed} (nonempty : group ≠ []) :
    ∃ best, best? group = some best := by
  cases group with
  | nil => contradiction
  | cons first others => exact ⟨_, rfl⟩

end Placed

namespace Cluster

/-- The clusters stand for the entries: they are represented by some of them, and no entry beats
all representatives. -/
structure Represents (clusters : List (Cluster Nat)) (entries : List Placed) : Prop where
  /-- Each representative is one of the entries. -/
  mem : ∀ cluster ∈ clusters, cluster.representative ∈ entries
  /-- Each entry has a representative that it does not beat. -/
  covered : ∀ entry ∈ entries, ∃ cluster ∈ clusters, entry.beats cluster.representative = false

theorem join_representative (cluster : Cluster Nat) (entry : Placed) :
    (cluster.join entry).representative =
      if cluster.representative.2.severity.rank < entry.2.severity.rank then
        entry
      else
        cluster.representative := by
  unfold join
  split <;> rfl

/-- A representative is replaced only by a more severe comment. -/
theorem not_beats_join (cluster : Cluster Nat) (entry : Placed) :
    Placed.beats cluster.representative (cluster.join entry).representative = false := by
  rw [join_representative, Placed.not_beats_iff]
  split <;> omega

/-- A comment that joins a cluster after its representative does not beat the new one. -/
theorem not_beats_join_of_lt {cluster : Cluster Nat} {entry : Placed}
    (later : cluster.representative.1 < entry.1) :
    entry.beats (cluster.join entry).representative = false := by
  rw [join_representative, Placed.not_beats_iff]
  split <;> omega

theorem representative_of_mem_insert {threshold : Binary64} {entry : Placed}
    {clusters : List (Cluster Nat)} {cluster : Cluster Nat}
    (mem : cluster ∈ insert threshold entry clusters) :
    cluster.representative = entry ∨
      ∃ old ∈ clusters, cluster.representative = old.representative := by
  induction clusters with
  | nil =>
      obtain rfl := List.mem_singleton.mp mem
      exact .inl rfl
  | cons first others induction =>
      rw [insert] at mem
      split at mem
      · rcases List.mem_cons.mp mem with rfl | mem
        · rw [join_representative]
          split
          · exact .inl rfl
          · exact .inr ⟨first, by simp, rfl⟩
        · exact .inr ⟨cluster, by simp [mem], rfl⟩
      · rcases List.mem_cons.mp mem with rfl | mem
        · exact .inr ⟨cluster, by simp, rfl⟩
        · rcases induction mem with equal | ⟨old, old_mem, equal⟩
          · exact .inl equal
          · exact .inr ⟨old, by simp [old_mem], equal⟩

/-- No representative is preferred to all those after one more comment. -/
theorem exists_insert_of_mem (threshold : Binary64) (entry : Placed)
    {clusters : List (Cluster Nat)} {old : Cluster Nat} (mem : old ∈ clusters) :
    ∃ cluster ∈ insert threshold entry clusters,
      Placed.beats old.representative cluster.representative = false := by
  induction clusters with
  | nil => simp at mem
  | cons first others induction =>
      rw [insert]
      rcases List.mem_cons.mp mem with rfl | mem
      · split
        · exact ⟨_, List.mem_cons_self, not_beats_join old entry⟩
        · exact ⟨old, List.mem_cons_self, Placed.not_beats_self _⟩
      · split
        · exact ⟨old, List.mem_cons_of_mem _ mem, Placed.not_beats_self _⟩
        · obtain ⟨cluster, cluster_mem, unbeaten⟩ := induction mem
          exact ⟨cluster, List.mem_cons_of_mem _ cluster_mem, unbeaten⟩

/-- The comment that was added last is not preferred to all representatives. -/
theorem exists_insert_self (threshold : Binary64) {entry : Placed}
    {clusters : List (Cluster Nat)}
    (later : ∀ cluster ∈ clusters, cluster.representative.1 < entry.1) :
    ∃ cluster ∈ insert threshold entry clusters, entry.beats cluster.representative = false := by
  induction clusters with
  | nil => exact ⟨ofEntry entry, by simp [insert], Placed.not_beats_self entry⟩
  | cons first others induction =>
      rw [insert]
      split
      · exact ⟨_, List.mem_cons_self, not_beats_join_of_lt (later first (by simp))⟩
      · obtain ⟨cluster, mem, unbeaten⟩ :=
          induction fun cluster mem => later cluster (List.mem_cons_of_mem _ mem)
        exact ⟨cluster, List.mem_cons_of_mem _ mem, unbeaten⟩

/-- One more comment, placed after all others, keeps the invariant. -/
theorem Represents.insert {threshold : Binary64} {clusters : List (Cluster Nat)}
    {entries : List Placed} (represents : Represents clusters entries) {entry : Placed}
    (later : ∀ earlier ∈ entries, earlier.1 < entry.1) :
    Represents (Cluster.insert threshold entry clusters) (entries ++ [entry]) where
  mem cluster cluster_mem := by
    rcases representative_of_mem_insert cluster_mem with equal | ⟨old, old_mem, equal⟩
    · simp [equal]
    · rw [equal]
      exact List.mem_append_left _ (represents.mem old old_mem)
  covered other other_mem := by
    rcases List.mem_append.mp other_mem with other_mem | other_mem
    · obtain ⟨old, old_mem, old_unbeaten⟩ := represents.covered other other_mem
      obtain ⟨cluster, cluster_mem, unbeaten⟩ := exists_insert_of_mem threshold entry old_mem
      exact ⟨cluster, cluster_mem, Placed.not_beats_trans old_unbeaten unbeaten⟩
    · obtain rfl := List.mem_singleton.mp other_mem
      exact exists_insert_self threshold fun cluster cluster_mem =>
        later _ (represents.mem cluster cluster_mem)

/-- The clusters of comments in the order of their positions stand for all of them. -/
theorem represents_ofEntries (threshold : Binary64) {entries : List Placed}
    (ordered : Placed.IsOrdered entries) : Represents (ofEntries threshold entries) entries := by
  induction entries using List.reverseRecOn with
  | nil => exact ⟨by simp [ofEntries], by simp⟩
  | append_singleton entries entry induction =>
      rw [Placed.IsOrdered, List.pairwise_append] at ordered
      obtain ⟨ordered, -, later⟩ := ordered
      rw [ofEntries, List.foldl_append]
      exact (induction ordered).insert fun earlier mem => later earlier mem entry (by simp)

end Cluster

/-- Of the representatives of a group, the preferred one is the preferred comment of the group,
whatever the threshold. -/
theorem Placed.isBest_of_best?_representatives {threshold : Binary64} {group : List Placed}
    (ordered : IsOrdered group) {best : Placed}
    (found : best? (representatives threshold group) = some best) : IsBest group best := by
  have represents := Cluster.represents_ofEntries threshold ordered
  obtain ⟨mem, unbeaten⟩ := isBest_of_best? found
  obtain ⟨cluster, cluster_mem, rfl⟩ := List.mem_map.mp mem
  refine ⟨represents.mem cluster cluster_mem, ?_⟩
  intro entry entry_mem
  obtain ⟨other, other_mem, entry_unbeaten⟩ := represents.covered entry entry_mem
  exact not_beats_trans entry_unbeaten (unbeaten _ (List.mem_map_of_mem other_mem))

theorem Placed.best?_representatives_eq_some_iff {threshold : Binary64} {group : List Placed}
    (ordered : IsOrdered group) {best : Placed} :
    best? (representatives threshold group) = some best ↔ IsBest group best := by
  constructor
  · exact isBest_of_best?_representatives ordered
  · intro isBest
    have represents := Cluster.represents_ofEntries threshold ordered
    obtain ⟨cluster, cluster_mem, -⟩ := represents.covered best isBest.mem
    have nonempty : representatives threshold group ≠ [] :=
      List.ne_nil_of_mem (List.mem_map_of_mem cluster_mem)
    obtain ⟨found, found_eq⟩ := exists_best?_of_ne_nil nonempty
    have found_best := isBest_of_best?_representatives ordered found_eq
    rw [found_eq, found_best.unique ordered isBest]

end DiffReview
