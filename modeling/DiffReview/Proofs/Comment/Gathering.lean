import DiffReview.Comment.Cluster
import DiffReview.Proofs.Number.Rounding
import Mathlib.Data.List.Induction
import Mathlib.Data.List.Nodup
import Mathlib.Data.List.Pairwise
import Mathlib.Data.List.Perm.Basic

/-!
# The members of clusters

A cluster keeps the words of its first comment and the comment that stands for it.  Here it keeps
all its members.  `IsGathering` says how entries are gathered greedily: each joins the first cluster
whose anchor it is similar to, and becomes an anchor if there is none.  Exactly one gathering of any
entries does so, and the representatives are those of its clusters: of each the most severe member,
the earliest of those.
-/

namespace DiffReview

open Number (Binary64)

variable {α : Type}

/-! ## Similarities are defined -/

theorem Number.Binary64.le_of_not_lt {left right : Binary64}
    (comparable : Binary64.areComparable left right = true) (not_lt : ¬left < right) :
    right ≤ left := by
  rw [lt_iff, not_and, Int.not_lt] at not_lt
  rw [le_iff]
  refine ⟨?_, not_lt comparable⟩
  rwa [areComparable, Bool.and_comm]

theorem isUndefined_wordSimilarity (left right : List String) :
    (wordSimilarity left right).isUndefined = false := by
  rw [wordSimilarity]
  split <;> exact Number.isUndefined_nearestQuotient _ _

/-! ## Members -/

/-- The members of a cluster, each with its index among all entries. -/
structure Members (α : Type) where
  /-- The entry that opened the cluster. -/
  anchor : (α × Comment) × Nat
  /-- The entries that joined it later, in order. -/
  followers : List ((α × Comment) × Nat)

namespace Members

/-- All members, the anchor first. -/
def all (members : Members α) : List ((α × Comment) × Nat) :=
  members.anchor :: members.followers

/-- Whether an entry is similar to the anchor. -/
def attracts (threshold : Binary64) (members : Members α) (entry : (α × Comment) × Nat) : Bool :=
  entry.1.2.isSimilar threshold members.anchor.1.2

/-- The members and one more. -/
def join (members : Members α) (entry : (α × Comment) × Nat) : Members α :=
  { members with followers := members.followers ++ [entry] }

/-- The gathering after one more entry. -/
def insert (threshold : Binary64) (entry : (α × Comment) × Nat) :
    List (Members α) → List (Members α)
  | [] => [⟨entry, []⟩]
  | members :: others =>
    if members.attracts threshold entry then
      members.join entry :: others
    else
      members :: insert threshold entry others

/-- The first of the most severe members. -/
def representative (members : Members α) : (α × Comment) × Nat :=
  members.followers.foldl
    (fun current entry =>
      if current.1.2.severity.rank < entry.1.2.severity.rank then entry else current)
    members.anchor

/-- What a cluster keeps of its members. -/
def cluster (members : Members α) : Cluster α where
  anchor := members.anchor.1.2.words
  representative := members.representative.1

/-- An entry stands for a cluster: those of its members that come before the entry are less severe,
and those that come after it are not more severe. -/
def IsRepresentedBy (members : Members α) (entry : α × Comment) : Prop :=
  ∃ before index after, members.all = before ++ (entry, index) :: after ∧
    (∀ earlier ∈ before, earlier.1.2.severity.rank < entry.2.severity.rank) ∧
      ∀ later ∈ after, later.1.2.severity.rank ≤ entry.2.severity.rank

end Members

/-! ## Gatherings -/

/-- The entries are gathered greedily into clusters. -/
structure IsGathering (threshold : Binary64) (entries : List ((α × Comment) × Nat))
    (gathering : List (Members α)) : Prop where
  /-- Each entry belongs to one cluster. -/
  partition : (gathering.flatMap Members.all).Perm entries
  /-- Members stand in the order of the entries. -/
  members_ordered : ∀ members ∈ gathering,
    members.all.Pairwise fun earlier later => earlier.2 < later.2
  /-- Clusters stand in the order of their anchors. -/
  anchors_ordered : gathering.Pairwise fun earlier later => earlier.anchor.2 < later.anchor.2
  /-- A follower is similar to its anchor. -/
  followers_similar : ∀ members ∈ gathering, ∀ entry ∈ members.followers,
    members.attracts threshold entry = true
  /-- No member of a cluster, its anchor included, is similar to the anchor of an earlier one. -/
  earlier_dissimilar : gathering.Pairwise fun earlier later =>
    ∀ entry ∈ later.all, earlier.attracts threshold entry = false

namespace Members

theorem insert_of_forall {threshold : Binary64} {entry : (α × Comment) × Nat}
    {gathering : List (Members α)}
    (apart : ∀ members ∈ gathering, members.attracts threshold entry = false) :
    insert threshold entry gathering = gathering ++ [⟨entry, []⟩] := by
  induction gathering with
  | nil => rfl
  | cons first others induction =>
      rw [List.forall_mem_cons] at apart
      rw [insert, if_neg (by simp [apart.1]), induction apart.2, List.cons_append]

theorem insert_append_cons {threshold : Binary64} {entry : (α × Comment) × Nat}
    {before after : List (Members α)} {members : Members α}
    (apart : ∀ earlier ∈ before, earlier.attracts threshold entry = false)
    (attracted : members.attracts threshold entry = true) :
    insert threshold entry (before ++ members :: after) =
      before ++ members.join entry :: after := by
  induction before with
  | nil => rw [List.nil_append, insert, if_pos attracted, List.nil_append]
  | cons first before induction =>
      rw [List.forall_mem_cons] at apart
      rw [List.cons_append, insert, if_neg (by simp [apart.1]), induction apart.2,
        List.cons_append]

theorem all_join (members : Members α) (entry : (α × Comment) × Nat) :
    (members.join entry).all = members.all ++ [entry] :=
  rfl

theorem perm_flatMap_all_join (before after : List (Members α)) (members : Members α)
    (entry : (α × Comment) × Nat) :
    ((before ++ members.join entry :: after).flatMap all).Perm
      ((before ++ members :: after).flatMap all ++ [entry]) := by
  simp only [List.flatMap_append, List.flatMap_cons, all_join, List.append_assoc]
  have swap : ([entry] ++ after.flatMap all).Perm (after.flatMap all ++ [entry]) :=
    List.perm_append_comm
  exact (swap.append_left _).append_left _

section Join

variable {threshold : Binary64} {before after : List (Members α)} {members : Members α}
  {entry : (α × Comment) × Nat}

theorem ordered_join_iff :
    (∀ cluster ∈ before ++ members.join entry :: after,
        cluster.all.Pairwise fun earlier later => earlier.2 < later.2) ↔
      (∀ cluster ∈ before ++ members :: after,
          cluster.all.Pairwise fun earlier later => earlier.2 < later.2) ∧
        ∀ other ∈ members.all, other.2 < entry.2 := by
  simp only [List.forall_mem_append, List.forall_mem_cons, all_join, List.pairwise_append,
    List.pairwise_singleton, List.mem_singleton, forall_eq]
  tauto

theorem anchors_join_iff :
    ((before ++ members.join entry :: after).Pairwise fun earlier later =>
        earlier.anchor.2 < later.anchor.2) ↔
      (before ++ members :: after).Pairwise fun earlier later =>
        earlier.anchor.2 < later.anchor.2 := by
  simp only [List.pairwise_append, List.pairwise_cons, List.forall_mem_cons]
  rfl

theorem similar_join_iff :
    (∀ cluster ∈ before ++ members.join entry :: after, ∀ follower ∈ cluster.followers,
        cluster.attracts threshold follower = true) ↔
      (∀ cluster ∈ before ++ members :: after, ∀ follower ∈ cluster.followers,
          cluster.attracts threshold follower = true) ∧
        members.attracts threshold entry = true := by
  have joined : (∀ follower ∈ (members.join entry).followers,
      (members.join entry).attracts threshold follower = true) ↔
        (∀ follower ∈ members.followers, members.attracts threshold follower = true) ∧
          members.attracts threshold entry = true := by
    rw [join, List.forall_mem_append, List.forall_mem_singleton]
    rfl
  simp only [List.forall_mem_append, List.forall_mem_cons, joined]
  tauto

theorem dissimilar_join_iff :
    ((before ++ members.join entry :: after).Pairwise fun earlier later =>
        ∀ other ∈ later.all, earlier.attracts threshold other = false) ↔
      ((before ++ members :: after).Pairwise fun earlier later =>
          ∀ other ∈ later.all, earlier.attracts threshold other = false) ∧
        ∀ earlier ∈ before, earlier.attracts threshold entry = false := by
  have same : (members.join entry).attracts threshold = members.attracts threshold := rfl
  simp only [List.pairwise_append, List.pairwise_cons, List.forall_mem_cons, all_join,
    List.forall_mem_append, List.mem_singleton, forall_eq, same, forall_and]
  tauto

end Join

end Members

/-- Nothing stands behind the item with the largest index. -/
theorem eq_nil_of_ordered {β : Type} (index : β → Nat) {item : β} {behind : List β}
    (ordered : (item :: behind).Pairwise fun earlier later => index earlier < index later)
    (largest : ∀ other ∈ behind, index other ≤ index item) : behind = [] := by
  rw [List.eq_nil_iff_forall_not_mem]
  intro other mem
  exact Nat.not_lt.mpr (largest other mem) ((List.pairwise_cons.mp ordered).1 other mem)

section Step

variable {threshold : Binary64} {entries : List ((α × Comment) × Nat)}
  {gathering : List (Members α)}

theorem IsGathering.mem_entries (gathered : IsGathering threshold entries gathering)
    {members : Members α} (members_mem : members ∈ gathering) {entry : (α × Comment) × Nat}
    (mem : entry ∈ members.all) : entry ∈ entries :=
  gathered.partition.subset (List.mem_flatMap_of_mem members_mem mem)

theorem isGathering_nil_iff : IsGathering threshold [] gathering ↔ gathering = [] := by
  constructor
  · intro gathered
    rw [List.eq_nil_iff_forall_not_mem]
    intro members mem
    exact List.not_mem_nil (gathered.mem_entries mem List.mem_cons_self)
  · rintro rfl
    exact ⟨.nil, by simp, .nil, by simp, .nil⟩

variable {entry : (α × Comment) × Nat} (later : ∀ earlier ∈ entries, earlier.2 < entry.2)
include later

/-- An entry that comes after all others opens a cluster exactly if no anchor is similar to it. -/
theorem isGathering_concat_iff :
    IsGathering threshold (entries ++ [entry]) (gathering ++ [⟨entry, []⟩]) ↔
      IsGathering threshold entries gathering ∧
        ∀ members ∈ gathering, members.attracts threshold entry = false := by
  constructor
  · rintro ⟨partition, members_ordered, anchors_ordered, followers_similar, earlier_dissimilar⟩
    rw [List.flatMap_append] at partition
    rw [List.pairwise_append] at anchors_ordered earlier_dissimilar
    rw [List.forall_mem_append] at members_ordered followers_similar
    have apart : ∀ members ∈ gathering, members.attracts threshold entry = false := by
      intro members mem
      exact earlier_dissimilar.2.2 members mem _ List.mem_cons_self entry List.mem_cons_self
    exact ⟨⟨(List.perm_append_right_iff [entry]).mp partition, members_ordered.1,
      anchors_ordered.1, followers_similar.1, earlier_dissimilar.1⟩, apart⟩
  · rintro ⟨gathered, apart⟩
    refine ⟨?_, ?_, ?_, ?_, ?_⟩
    · rw [List.flatMap_append]
      exact gathered.partition.append_right [entry]
    · rw [List.forall_mem_append, List.forall_mem_singleton]
      exact ⟨gathered.members_ordered, List.pairwise_singleton _ _⟩
    · rw [List.pairwise_append]
      refine ⟨gathered.anchors_ordered, List.pairwise_singleton _ _, ?_⟩
      intro members mem last last_mem
      rw [List.mem_singleton.mp last_mem]
      exact later _ (gathered.mem_entries mem List.mem_cons_self)
    · rw [List.forall_mem_append, List.forall_mem_singleton]
      exact ⟨gathered.followers_similar, by simp⟩
    · rw [List.pairwise_append]
      refine ⟨gathered.earlier_dissimilar, List.pairwise_singleton _ _, ?_⟩
      intro members mem last last_mem other other_mem
      rw [List.mem_singleton.mp last_mem, Members.all, List.mem_singleton] at other_mem
      rw [other_mem]
      exact apart members mem

/-- An entry that comes after all others joins a cluster exactly if it is similar to the anchor, and
to no earlier one. -/
theorem isGathering_join_iff {before after : List (Members α)} {members : Members α} :
    IsGathering threshold (entries ++ [entry]) (before ++ members.join entry :: after) ↔
      IsGathering threshold entries (before ++ members :: after) ∧
        members.attracts threshold entry = true ∧
          ∀ earlier ∈ before, earlier.attracts threshold entry = false := by
  have perm := Members.perm_flatMap_all_join before after members entry
  constructor
  · rintro ⟨partition, members_ordered, anchors_ordered, followers_similar, earlier_dissimilar⟩
    obtain ⟨members_ordered, -⟩ := Members.ordered_join_iff.mp members_ordered
    obtain ⟨followers_similar, attracted⟩ := Members.similar_join_iff.mp followers_similar
    obtain ⟨earlier_dissimilar, apart⟩ := Members.dissimilar_join_iff.mp earlier_dissimilar
    have partition := (List.perm_append_right_iff [entry]).mp (perm.symm.trans partition)
    exact ⟨⟨partition, members_ordered, Members.anchors_join_iff.mp anchors_ordered,
      followers_similar, earlier_dissimilar⟩, attracted, apart⟩
  · rintro ⟨gathered, attracted, apart⟩
    have members_later : ∀ other ∈ members.all, other.2 < entry.2 :=
      fun other mem => later other (gathered.mem_entries (by simp) mem)
    exact {
      partition := perm.trans (gathered.partition.append_right [entry])
      members_ordered := Members.ordered_join_iff.mpr ⟨gathered.members_ordered, members_later⟩
      anchors_ordered := Members.anchors_join_iff.mpr gathered.anchors_ordered
      followers_similar := Members.similar_join_iff.mpr ⟨gathered.followers_similar, attracted⟩
      earlier_dissimilar := Members.dissimilar_join_iff.mpr ⟨gathered.earlier_dissimilar, apart⟩ }

/-- Without its newest entry a gathering is what that entry was inserted into. -/
theorem IsGathering.exists_insert
    (gathered : IsGathering threshold (entries ++ [entry]) gathering) :
    ∃ previous, IsGathering threshold entries previous ∧
      gathering = Members.insert threshold entry previous := by
  have newest : ∀ members ∈ gathering, ∀ other ∈ members.all, other.2 ≤ entry.2 := by
    intro members members_mem other mem
    rcases List.mem_append.mp (gathered.mem_entries members_mem mem) with earlier | same
    · exact Nat.le_of_lt (later other earlier)
    · exact Nat.le_of_eq (congrArg Prod.snd (List.mem_singleton.mp same))
  have entry_mem : entry ∈ gathering.flatMap Members.all :=
    gathered.partition.mem_iff.mpr (by simp)
  obtain ⟨⟨anchor, followers⟩, members_mem, own_mem⟩ := List.mem_flatMap.mp entry_mem
  have ordered := gathered.members_ordered _ members_mem
  obtain ⟨before, after, rfl⟩ := List.mem_iff_append.mp members_mem
  rcases List.mem_cons.mp own_mem with rfl | follows
  · have no_followers : followers = [] :=
      eq_nil_of_ordered Prod.snd ordered fun other mem =>
        newest _ members_mem other (List.mem_cons_of_mem _ mem)
    have no_later : after = [] :=
      eq_nil_of_ordered (fun members => members.anchor.2)
        (List.pairwise_append.mp gathered.anchors_ordered).2.1 fun members mem =>
          newest members (by simp [mem]) _ List.mem_cons_self
    subst no_followers no_later
    obtain ⟨previous, apart⟩ := (isGathering_concat_iff later).mp gathered
    exact ⟨before, previous, (Members.insert_of_forall apart).symm⟩
  · obtain ⟨front, back, rfl⟩ := List.mem_iff_append.mp follows
    have last : back = [] :=
      eq_nil_of_ordered Prod.snd (List.pairwise_append.mp (List.pairwise_cons.mp ordered).2).2.1
        fun other mem => newest _ members_mem other (by simp [Members.all, mem])
    subst last
    have joined : (⟨anchor, front ++ [entry]⟩ : Members α) = Members.join ⟨anchor, front⟩ entry :=
      rfl
    rw [joined] at gathered
    obtain ⟨previous, attracted, apart⟩ := (isGathering_join_iff later).mp gathered
    exact ⟨_, previous, (Members.insert_append_cons apart attracted).symm⟩

theorem IsGathering.insert (gathered : IsGathering threshold entries gathering) :
    IsGathering threshold (entries ++ [entry]) (Members.insert threshold entry gathering) := by
  cases found : gathering.find? fun members => members.attracts threshold entry with
  | none =>
      have apart : ∀ members ∈ gathering, members.attracts threshold entry = false := by
        simpa using List.find?_eq_none.mp found
      rw [Members.insert_of_forall apart]
      exact (isGathering_concat_iff later).mpr ⟨gathered, apart⟩
  | some members =>
      obtain ⟨attracted, before, after, rfl, apart⟩ := List.find?_eq_some_iff_append.mp found
      replace apart : ∀ earlier ∈ before, earlier.attracts threshold entry = false := by
        simpa using apart
      rw [Members.insert_append_cons apart attracted]
      exact (isGathering_join_iff later).mpr ⟨gathered, attracted, apart⟩

end Step

/-- The greedy gathering of some entries. -/
def gather (threshold : Binary64) (entries : List ((α × Comment) × Nat)) : List (Members α) :=
  entries.foldl (fun gathering entry => Members.insert threshold entry gathering) []

theorem isGathering_iff {threshold : Binary64} {entries : List ((α × Comment) × Nat)}
    (ordered : entries.Pairwise fun earlier later => earlier.2 < later.2)
    {gathering : List (Members α)} :
    IsGathering threshold entries gathering ↔ gathering = gather threshold entries := by
  induction entries using List.reverseRecOn generalizing gathering with
  | nil => exact isGathering_nil_iff
  | append_singleton entries entry induction =>
      obtain ⟨ordered, -, later⟩ := List.pairwise_append.mp ordered
      have latest : ∀ earlier ∈ entries, earlier.2 < entry.2 :=
        fun earlier mem => later earlier mem entry List.mem_cons_self
      rw [gather, List.foldl_append]
      constructor
      · intro gathered
        obtain ⟨previous, previous_gathered, rfl⟩ := gathered.exists_insert latest
        rw [(induction ordered).mp previous_gathered]
        rfl
      · rintro rfl
        exact ((induction ordered).mpr rfl).insert latest

theorem IsGathering.existsUnique_mem {threshold : Binary64}
    {entries : List ((α × Comment) × Nat)} {gathering : List (Members α)}
    (gathered : IsGathering threshold entries gathering) (distinct : entries.Nodup)
    {entry : (α × Comment) × Nat} (mem : entry ∈ entries) :
    ∃! members, members ∈ gathering ∧ entry ∈ members.all := by
  obtain ⟨-, disjoint⟩ := List.nodup_flatMap.mp (gathered.partition.nodup_iff.mpr distinct)
  have : Std.Symm (Function.onFun List.Disjoint (Members.all (α := α))) :=
    ⟨fun _ _ apart _ first_mem second_mem => apart second_mem first_mem⟩
  obtain ⟨members, members_mem, entry_mem⟩ :=
    List.mem_flatMap.mp (gathered.partition.mem_iff.mpr mem)
  refine ⟨members, ⟨members_mem, entry_mem⟩, ?_⟩
  rintro other ⟨other_mem, entry_in_other⟩
  by_contra different
  exact disjoint.forall other_mem members_mem different entry_in_other entry_mem

/-! ## Representatives -/

namespace Members

theorem representative_join (members : Members α) (entry : (α × Comment) × Nat) :
    (members.join entry).representative =
      if members.representative.1.2.severity.rank < entry.1.2.severity.rank then
        entry
      else
        members.representative := by
  rw [representative, join, List.foldl_append]
  rfl

theorem isRepresentedBy_representative (members : Members α) :
    members.IsRepresentedBy members.representative.1 := by
  obtain ⟨anchor, followers⟩ := members
  induction followers using List.reverseRecOn with
  | nil => exact ⟨[], anchor.2, [], rfl, by simp, by simp⟩
  | append_singleton followers entry induction =>
      have joined : (⟨anchor, followers ++ [entry]⟩ : Members α) = join ⟨anchor, followers⟩ entry :=
        rfl
      rw [joined, representative_join]
      obtain ⟨before, index, after, all_eq, less, notMore⟩ := induction
      split
      · rename_i more
        refine ⟨(⟨anchor, followers⟩ : Members α).all, entry.2, [], rfl, ?_, by simp⟩
        intro earlier mem
        rw [all_eq] at mem
        rcases List.mem_append.mp mem with mem | mem
        · exact Nat.lt_trans (less earlier mem) more
        · rcases List.mem_cons.mp mem with rfl | mem
          · exact more
          · exact Nat.lt_of_le_of_lt (notMore earlier mem) more
      · rename_i not_more
        refine ⟨before, index, after ++ [entry], ?_, less, ?_⟩
        · rw [all_join, all_eq, List.append_assoc, List.cons_append]
        · rw [List.forall_mem_append, List.forall_mem_singleton]
          exact ⟨notMore, Nat.not_lt.mp not_more⟩

theorem cluster_join (members : Members α) (entry : (α × Comment) × Nat) :
    (members.join entry).cluster = members.cluster.join entry.1 := by
  rw [cluster, representative_join, Cluster.join]
  split
  · rename_i more
    exact (if_pos more).symm
  · rename_i not_more
    exact (if_neg not_more).symm

theorem map_cluster_insert (threshold : Binary64) (entry : (α × Comment) × Nat)
    (gathering : List (Members α)) :
    (insert threshold entry gathering).map cluster =
      Cluster.insert threshold entry.1 (gathering.map cluster) := by
  induction gathering with
  | nil => rfl
  | cons members others induction =>
      have accepts_eq : members.cluster.accepts threshold entry.1.2 =
          members.attracts threshold entry := rfl
      rw [insert, List.map_cons, Cluster.insert, accepts_eq]
      split
      · rw [List.map_cons, cluster_join]
      · rw [List.map_cons, induction]

end Members

theorem map_cluster_gather (threshold : Binary64) (entries : List (α × Comment)) :
    (gather threshold entries.zipIdx).map Members.cluster =
      Cluster.ofEntries threshold entries := by
  induction entries using List.reverseRecOn with
  | nil => rfl
  | append_singleton entries entry induction =>
      rw [List.zipIdx_append, gather, List.foldl_append, Cluster.ofEntries, List.foldl_append]
      exact (Members.map_cluster_insert threshold _ _).trans
        (congrArg (Cluster.insert threshold entry) induction)

/-- Exactly one gathering of the entries is greedy: an anchor is similar to no earlier anchor, and
every other entry follows the first anchor it is similar to.  Each entry belongs to exactly one
cluster, the representatives stand for the clusters in the order of the anchors, each being the
first of the most severe members of its cluster, and all of them are entries. -/
theorem representatives_stand_for_gathering (threshold : Binary64)
    (entries : List (α × Comment)) :
    ∃ gathering : List (Members α),
      (∀ other, IsGathering threshold entries.zipIdx other ↔ other = gathering) ∧
        (gathering.Pairwise fun earlier later =>
          later.anchor.1.2.similarity earlier.anchor.1.2 ≤ threshold ∨ threshold.isUndefined) ∧
          (∀ entry ∈ entries.zipIdx, ∃! members, members ∈ gathering ∧ entry ∈ members.all) ∧
            List.Forall₂ Members.IsRepresentedBy gathering (representatives threshold entries) ∧
              ∀ entry ∈ representatives threshold entries, entry ∈ entries := by
  have ordered : entries.zipIdx.Pairwise fun earlier later => earlier.2 < later.2 := by
    rw [← List.pairwise_map (f := Prod.snd) (R := (· < ·)), List.zipIdx_map_snd]
    exact List.pairwise_lt_range'
  have gathered : IsGathering threshold entries.zipIdx (gather threshold entries.zipIdx) :=
    (isGathering_iff ordered).mpr rfl
  have distinct : entries.zipIdx.Nodup :=
    ordered.imp fun before same => Nat.ne_of_lt before (congrArg Prod.snd same)
  have representatives_eq : representatives threshold entries =
      (gather threshold entries.zipIdx).map fun members => members.representative.1 := by
    rw [representatives, ← map_cluster_gather, List.map_map]
    rfl
  refine ⟨gather threshold entries.zipIdx, fun other => isGathering_iff ordered, ?_,
    fun entry mem => gathered.existsUnique_mem distinct mem, ?_, ?_⟩
  · refine gathered.earlier_dissimilar.imp ?_
    intro earlier later dissimilar
    have not_above : ¬threshold < later.anchor.1.2.similarity earlier.anchor.1.2 :=
      of_decide_eq_false (dissimilar later.anchor List.mem_cons_self)
    cases undefined : threshold.isUndefined with
    | true => exact .inr rfl
    | false =>
        refine .inl (Binary64.le_of_not_lt ?_ not_above)
        rw [Binary64.areComparable, undefined, Comment.similarity, isUndefined_wordSimilarity]
        rfl
  · rw [representatives_eq, List.forall₂_map_right_iff, List.forall₂_same]
    exact fun members _ => members.isRepresentedBy_representative
  · intro entry mem
    rw [representatives_eq] at mem
    obtain ⟨members, members_mem, rfl⟩ := List.mem_map.mp mem
    obtain ⟨before, index, after, all_eq, -, -⟩ := members.isRepresentedBy_representative
    have entry_mem : (members.representative.1, index) ∈ entries.zipIdx :=
      gathered.mem_entries members_mem (by simp [all_eq])
    exact List.mem_of_getElem? (List.mk_mem_zipIdx_iff_getElem?.mp entry_mem)

end DiffReview
