import Mathlib.Data.List.Chain
import Mathlib.Data.List.Basic

/-!
# Blocks with a separator

Blocks are set apart by a separator that is in none of them: the windows of a hunk by a gap, the
sections of a summary by a blank row, the digits of a number by low lines.  So a separator is never
first or last, no two of them follow each other, and without them the blocks are left.
-/

namespace DiffReview

/-- Blocks that are each followed by a separator have one more of them than blocks set apart. -/
theorem flatMap_append_separator {α : Type} (separator : α) {blocks : List (List α)}
    (nonempty : blocks ≠ []) :
    blocks.flatMap (· ++ [separator]) = [separator].intercalate blocks ++ [separator] := by
  induction blocks with
  | nil => contradiction
  | cons block blocks induction =>
      cases blocks with
      | nil => simp
      | cons next blocks =>
          rw [List.flatMap_cons, induction (List.cons_ne_nil _ _), List.intercalate_cons_cons]
          simp only [List.append_assoc]

/-- Each block is part of the whole. -/
theorem subset_intercalate {α : Type} {separator block : List α} {blocks : List (List α)}
    (block_mem : block ∈ blocks) : block ⊆ separator.intercalate blocks := by
  induction blocks with
  | nil => contradiction
  | cons first others induction =>
      cases others with
      | nil =>
          rw [List.intercalate_singleton, List.mem_singleton.mp block_mem]
          exact List.Subset.refl _
      | cons next others =>
          rw [List.intercalate_cons_cons]
          rcases List.mem_cons.mp block_mem with rfl | behind
          · exact fun _ mem => List.mem_append_left _ (List.mem_append_left _ mem)
          · exact fun _ mem => List.mem_append_right _ (induction behind mem)

/-- No block is empty, and the separator is in none of them. -/
def AreSeparable {α : Type} (separator : α) (blocks : List (List α)) : Prop :=
  ∀ block ∈ blocks, block ≠ [] ∧ separator ∉ block

namespace AreSeparable

variable {α : Type} {separator : α} {block : List α} {blocks : List (List α)}

theorem exists_intercalate_eq_cons (separable : AreSeparable separator (block :: blocks)) :
    ∃ first rest, [separator].intercalate (block :: blocks) = first :: rest ∧
      first ≠ separator := by
  obtain ⟨⟨nonempty, absent⟩, -⟩ := List.forall_mem_cons.mp separable
  obtain ⟨first, rest, rfl⟩ := List.exists_cons_of_ne_nil nonempty
  refine ⟨first, [separator].intercalate (rest :: blocks), List.intercalate_cons_cons_left, ?_⟩
  rintro rfl
  exact absent List.mem_cons_self

theorem head?_intercalate_ne (separable : AreSeparable separator blocks) :
    ([separator].intercalate blocks).head? ≠ some separator := by
  cases blocks with
  | nil => simp
  | cons block blocks =>
      obtain ⟨first, rest, joined_eq, other⟩ := separable.exists_intercalate_eq_cons
      simpa [joined_eq] using other

theorem head?_intercalate (separable : AreSeparable separator blocks) :
    ([separator].intercalate blocks).head? = blocks.flatten.head? := by
  cases blocks with
  | nil => rfl
  | cons block blocks =>
      obtain ⟨⟨nonempty, -⟩, -⟩ := List.forall_mem_cons.mp separable
      obtain ⟨first, rest, rfl⟩ := List.exists_cons_of_ne_nil nonempty
      rw [List.intercalate_cons_cons_left]
      rfl

theorem getLast?_intercalate_ne (separable : AreSeparable separator blocks) :
    ([separator].intercalate blocks).getLast? ≠ some separator := by
  induction blocks with
  | nil => simp
  | cons block blocks induction =>
      obtain ⟨⟨-, absent⟩, separable⟩ := List.forall_mem_cons.mp separable
      cases blocks with
      | nil =>
          rw [List.intercalate_singleton]
          exact fun last => absent (List.mem_of_getLast? last)
      | cons next blocks =>
          obtain ⟨first, rest, joined_eq, -⟩ :=
            AreSeparable.exists_intercalate_eq_cons separable
          have last := induction separable
          rw [joined_eq] at last
          rw [List.intercalate_cons_cons, joined_eq,
            List.getLast?_append_of_ne_nil _ (List.cons_ne_nil first rest)]
          exact last

/-- No two separators follow each other. -/
theorem isChain_intercalate (separable : AreSeparable separator blocks) :
    ([separator].intercalate blocks).IsChain fun left right =>
      left ≠ separator ∨ right ≠ separator := by
  induction blocks with
  | nil => exact List.isChain_nil
  | cons block blocks induction =>
      obtain ⟨⟨-, absent⟩, separable⟩ := List.forall_mem_cons.mp separable
      have inside : block.IsChain fun left right => left ≠ separator ∨ right ≠ separator := by
        refine (List.pairwise_of_forall_mem_list fun left left_mem _ _ => ?_).isChain
        exact .inl (ne_of_mem_of_not_mem left_mem absent)
      cases blocks with
      | nil => rwa [List.intercalate_singleton]
      | cons next blocks =>
          obtain ⟨first, rest, joined_eq, other⟩ :=
            AreSeparable.exists_intercalate_eq_cons separable
          have behind := induction separable
          rw [joined_eq] at behind
          rw [List.intercalate_cons_cons, joined_eq, List.append_assoc, List.singleton_append]
          refine List.isChain_append.mpr ⟨inside, .cons_cons (.inr other) behind, ?_⟩
          intro last last_mem _ _
          exact .inl (ne_of_mem_of_not_mem (List.mem_of_getLast? last_mem) absent)

variable [DecidableEq α]

theorem filter_intercalate (separable : AreSeparable separator blocks) :
    ([separator].intercalate blocks).filter (· ≠ separator) = blocks.flatten := by
  induction blocks with
  | nil => rfl
  | cons block blocks induction =>
      obtain ⟨⟨-, absent⟩, separable⟩ := List.forall_mem_cons.mp separable
      have kept : block.filter (· ≠ separator) = block := by
        rw [List.filter_eq_self]
        intro item item_mem
        exact decide_eq_true (ne_of_mem_of_not_mem item_mem absent)
      cases blocks with
      | nil => simpa using kept
      | cons next blocks =>
          rw [List.intercalate_cons_cons, List.filter_append, List.filter_append, kept,
            induction separable]
          simp

theorem eq_or_mem_of_mem_intercalate (separable : AreSeparable separator blocks) {item : α}
    (item_mem : item ∈ [separator].intercalate blocks) :
    item = separator ∨ item ∈ blocks.flatten := by
  by_cases same : item = separator
  · exact .inl same
  · rw [← separable.filter_intercalate]
    exact .inr (List.mem_filter.mpr ⟨item_mem, decide_eq_true same⟩)

theorem count_intercalate (separable : AreSeparable separator blocks) :
    ([separator].intercalate blocks).count separator = blocks.length - 1 := by
  induction blocks with
  | nil => rfl
  | cons block blocks induction =>
      obtain ⟨⟨-, absent⟩, separable⟩ := List.forall_mem_cons.mp separable
      have none_inside : block.count separator = 0 := List.count_eq_zero.mpr absent
      cases blocks with
      | nil => rw [List.intercalate_singleton, none_inside]; rfl
      | cons next blocks =>
          rw [List.intercalate_cons_cons, List.count_append, List.count_append, none_inside,
            induction separable, List.count_singleton_self]
          simp only [List.length_cons]
          omega

end AreSeparable

end DiffReview
