import DiffReview.Proofs.Summary.Separated
import DiffReview.Proofs.Summary.Unambiguous
import Mathlib.Data.List.SplitBy

/-!
# Windows of a hunk

What is shown of a hunk are the lines near its added ones, each of them once and in the order of the
hunk, with a gap between any two runs of consecutive lines.  That holds for every hunk and every
reach, as long as the numbers to be shown can be written at all.
-/

namespace DiffReview

open Text

/-! ## Lines near added ones -/

namespace Summary

instance (reach : Int) (lines : List Line) (index : Nat) :
    Decidable (IsNearAdded reach lines index) :=
  decidable_of_iff
    (∃ other ∈ List.range lines.length, lines[other]?.any Line.isAdded = true ∧
      (index : Int) - other ≤ reach ∧ (other : Int) - index ≤ reach) <| by
    refine exists_congr fun other => and_iff_right_of_imp ?_
    rintro ⟨added, -, -⟩
    obtain ⟨line, line_eq, -⟩ := (Option.any_eq_true _ _).mp added
    exact List.mem_range.mpr (List.getElem?_eq_some_iff.mp line_eq).1

/-- A line is near whatever line it is near to, in any wider reach. -/
theorem IsNearAdded.mono {reach wider : Int} {lines : List Line} {index : Nat}
    (near : IsNearAdded reach lines index) (within : reach ≤ wider) :
    IsNearAdded wider lines index := by
  obtain ⟨other, added, behind, before⟩ := near
  exact ⟨other, added, Int.le_trans behind within, Int.le_trans before within⟩

theorem zip_shownMarks (reach : Int) (lines : List Line) :
    lines.zipIdx.zip (shownMarks reach lines) =
      lines.zipIdx.map fun entry => (entry, decide (IsNearAdded reach lines entry.2)) := by
  apply List.ext_getElem?
  intro index
  by_cases short : index < lines.length
  · have mark_eq : (shownMarks reach lines)[index]? =
        some (decide (IsNearAdded reach lines index)) := by
      have marked := @getElem?_shownMarks_eq_some_true_iff reach lines index
      rw [List.getElem?_eq_getElem (by rwa [length_shownMarks]), Option.some.injEq] at marked ⊢
      rw [Bool.eq_iff_iff, marked, decide_eq_true_iff, and_iff_right short]
    simp [List.getElem?_zip_eq_some, mark_eq, short]
  · have long : lines.length ≤ index := Nat.not_lt.mp short
    rw [List.getElem?_eq_none (by simp [length_shownMarks, long]),
      List.getElem?_eq_none (by simpa using long)]

end Summary

open Summary

/-- The lines of the hunk that are at most `reach` lines away from an added one, with their
indices. -/
def Hunk.nearAdded (reach : Int) (hunk : Hunk) : List (Line × Nat) :=
  hunk.lines.zipIdx.filter fun entry => IsNearAdded reach hunk.lines entry.2

theorem shownLines_eq_nearAdded (reach : Int) (hunk : Hunk) :
    shownLines reach hunk.lines = hunk.nearAdded reach := by
  rw [shownLines, zip_shownMarks, List.filter_map, List.map_map]
  exact List.map_id _

/-! ## Runs of consecutive lines -/

/-- A run goes on with the next element, or else ends with the first one. -/
theorem splitBy_cons_cons {α : Type} (related : α → α → Bool) (first second : α) (rest : List α) :
    (first :: second :: rest).splitBy related =
      if related first second then ((second :: rest).splitBy related).modifyHead (first :: ·)
      else [first] :: (second :: rest).splitBy related := by
  split
  · rename_i joined
    obtain ⟨rows_eq, nonempty, chained, apart⟩ := List.splitBy_eq_iff.mp
      (rfl : (second :: rest).splitBy related = (second :: rest).splitBy related)
    generalize (second :: rest).splitBy related = blocks at rows_eq nonempty chained apart
    match blocks with
    | [] => simp at rows_eq
    | [] :: blocks => simp at nonempty
    | (head :: block) :: blocks =>
      obtain ⟨rfl, -⟩ := List.cons.inj rows_eq
      rw [List.splitBy_eq_iff, List.modifyHead_cons, List.forall_mem_cons]
      rw [List.forall_mem_cons] at chained
      refine ⟨congrArg (first :: ·) rows_eq, ?_, ⟨.cons_cons joined chained.1, chained.2⟩, ?_⟩
      · simpa using nonempty
      · rw [List.isChain_cons] at apart ⊢
        refine ⟨fun next next_mem => ?_, apart.2⟩
        obtain ⟨_, next_ne_nil, differs⟩ := apart.1 next next_mem
        exact ⟨List.cons_ne_nil _ _, next_ne_nil, by simpa using differs⟩
  · rename_i apart
    exact List.splitBy_append_cons (l := [first]) rest (by simpa using apart)

namespace Summary

/-- Whether one line stands right below another one. -/
def follows (upper lower : Line × Nat) : Bool :=
  lower.2 == upper.2 + 1

/-- The runs of consecutive lines. -/
def runs (lines : List (Line × Nat)) : List (List (Line × Nat)) :=
  lines.splitBy follows

end Summary

/-- The row that shows a line. -/
def Line.row (line : Line) : String :=
  (Entry.ofLine line).text

namespace Summary

theorem Entry.text_injective : Function.Injective Entry.text :=
  fun _ _ same => Entry.row_injective (String.ofList_injective same)

/-- No line looks like a gap. -/
theorem row_ne_gap (line : Line) : line.row ≠ gap := by
  have other : Entry.ofLine line ≠ .gap := by cases line <;> exact Entry.noConfusion
  exact fun same => other (Entry.text_injective same)

/-- Behind a line, a gap stands exactly where a run ends. -/
theorem intercalate_runs_cons (shown : Line × Nat) (lines : List (Line × Nat)) :
    [gap].intercalate ((runs (shown :: lines)).map (List.map fun entry => entry.1.row)) =
      shown.1.row :: (entriesFrom (some shown.2) lines).map Entry.text := by
  induction lines generalizing shown with
  | nil => rfl
  | cons next lines induction =>
      have nonempty : runs (next :: lines) ≠ [] := List.splitBy_ne_nil.mpr (List.cons_ne_nil _ _)
      obtain ⟨run, others, runs_eq⟩ := List.exists_cons_of_ne_nil nonempty
      have below := induction next
      have step : runs (shown :: next :: lines) = if follows shown next then
          (runs (next :: lines)).modifyHead (shown :: ·) else [shown] :: runs (next :: lines) :=
        splitBy_cons_cons _ _ _ _
      rw [entriesFrom, List.map_append, List.map_cons, ← Line.row, ← below, step, runs_eq]
      by_cases joined : follows shown next = true
      · have adjacent : next.2 = shown.2 + 1 := beq_iff_eq.mp joined
        rw [if_pos joined, List.modifyHead_cons, List.map_cons, List.map_cons,
          List.intercalate_cons_cons_left, if_neg (by simp [adjacent])]
        rfl
      · have apart : next.2 ≠ shown.2 + 1 := by simpa [follows] using joined
        rw [if_neg joined, if_pos (by simpa using apart)]
        exact List.intercalate_cons_cons

theorem map_text_entriesFrom (lines : List (Line × Nat)) :
    (entriesFrom none lines).map Entry.text =
      [gap].intercalate ((runs lines).map (List.map fun entry => entry.1.row)) := by
  cases lines with
  | nil => rfl
  | cons shown lines =>
      rw [intercalate_runs_cons]
      rfl

theorem areSeparable_runs (lines : List (Line × Nat)) :
    AreSeparable gap ((runs lines).map (List.map fun entry => entry.1.row)) := by
  intro rows rows_mem
  obtain ⟨run, run_mem, rfl⟩ := List.mem_map.mp rows_mem
  refine ⟨by simpa using List.ne_nil_of_mem_splitBy run_mem, ?_⟩
  intro gap_mem
  obtain ⟨entry, -, row_eq⟩ := List.mem_map.mp gap_mem
  exact row_ne_gap entry.1 row_eq

theorem flatten_runs (lines : List (Line × Nat)) :
    ((runs lines).map (List.map fun entry => entry.1.row)).flatten =
      lines.map fun entry => entry.1.row := by
  rw [← List.map_flatten, runs, List.flatten_splitBy]

end Summary

/-! ## The windows of a hunk -/

namespace Hunk

theorem nearAdded_sublist {reach wider : Int} (within : reach ≤ wider) (hunk : Hunk) :
    (hunk.nearAdded reach).Sublist (hunk.nearAdded wider) := by
  apply List.monotone_filter_right
  intro entry near
  exact decide_eq_true ((of_decide_eq_true near).mono within)

/-- Of a hunk, the lines near added ones are shown, each once and in order, and a gap between two of
them exactly where their indices are not consecutive.  So a gap is never first or last, nor next to
another one; every added line is shown with its number; and a wider reach shows the same lines and
maybe more.  This is what is shown as long as the numbers of these lines can be written, and
otherwise writing fails. -/
theorem showHunk_merges_windows (hunk : Hunk) (reach : Nat) :
    let near := hunk.nearAdded reach
    let rows := [gap].intercalate ((runs near).map (List.map fun entry => entry.1.row))
    (∀ shown, showHunk reach hunk = .ok shown ↔
      (∀ entry ∈ near, entry.1.IsWritable) ∧ shown = rows) ∧
    rows.filter (· ≠ gap) = near.map (fun entry => entry.1.row) ∧
    rows.count gap = (runs near).length - 1 ∧
    rows.head? ≠ some gap ∧
    rows.getLast? ≠ some gap ∧
    (rows.IsChain fun upper lower => upper ≠ gap ∨ lower ≠ gap) ∧
    (∀ content number, .added content number ∈ hunk.lines →
      String.ofList (numberedRow '+' (Nat.toDigits 10 number) content) ∈ rows) ∧
    (∀ wider : Nat, reach ≤ wider → near.Sublist (hunk.nearAdded wider)) ∧
    (rows = [] ↔ hunk.hasAdditions = false) := by
  intro near rows
  have separable := areSeparable_runs near
  have shown_once : rows.filter (· ≠ gap) = near.map fun entry => entry.1.row :=
    separable.filter_intercalate.trans (flatten_runs near)
  refine ⟨?_, shown_once, ?_, separable.head?_intercalate_ne, separable.getLast?_intercalate_ne,
    separable.isChain_intercalate, ?_, ?_, ?_⟩
  · intro shown
    rw [showHunk, showFrom_eq_ok_iff, shownLines_eq_nearAdded, map_text_entriesFrom]
  · rw [separable.count_intercalate, List.length_map]
  · intro content number line_mem
    obtain ⟨index, line_eq⟩ := List.mem_iff_getElem?.mp line_mem
    have near_mem : (Line.added content number, index) ∈ hunk.nearAdded reach := by
      rw [← shownLines_eq_nearAdded]
      exact mem_shownLines_of_isAdded (Int.natCast_nonneg reach) rfl line_eq
    have row_mem : (Line.added content number).row ∈ rows.filter (· ≠ gap) := by
      rw [shown_once]
      exact List.mem_map_of_mem near_mem
    exact List.mem_of_mem_filter row_mem
  · intro wider within
    exact hunk.nearAdded_sublist (Int.ofNat_le.mpr within)
  · rw [← shownLines_eq_nil_iff (Int.natCast_nonneg reach), shownLines_eq_nearAdded]
    rw [show rows = _ from (map_text_entriesFrom near).symm, List.map_eq_nil_iff,
      entriesFrom_eq_nil_iff]

/-- Two windows of one line each are set apart, and grow together when the reach does. -/
theorem showHunk_merges_windows_between :
    let hunk : Hunk :=
      { header := "@@ -1,2 +1,4 @@", oldStart := 1, oldCount := 2, newStart := 1, newCount := 4,
        lines := [.added "a" 1, .context "b" 1 2, .removed "c" 2, .added "d" 3] }
    showHunk 0 hunk = .ok ["+    1 | a", "...", "+    3 | d"] ∧
      showHunk 1 hunk = .ok ["+    1 | a", "     2 | b", "-      | c", "+    3 | d"] ∧
      String.ofList (numberedRow '+' (Nat.toDigits 10 3) "d") ∈
        ["+    1 | a", "...", "+    3 | d"] ∧
      (hunk.nearAdded 0).Sublist (hunk.nearAdded 1) := by
  intro hunk
  obtain ⟨narrow, -, -, -, -, -, numbered_rows, widens, -⟩ := showHunk_merges_windows hunk 0
  obtain ⟨wide, -⟩ := showHunk_merges_windows hunk 1
  have narrow_rows : [gap].intercalate
      ((runs (hunk.nearAdded 0)).map (List.map fun entry => entry.1.row)) =
        ["+    1 | a", "...", "+    3 | d"] := by
    decide +kernel
  have last_mem : Line.added "d" 3 ∈ hunk.lines := by simp [hunk]
  have writable : ∀ reach ∈ [(0 : Int), 1], ∀ entry ∈ hunk.nearAdded reach, entry.1.IsWritable := by
    have small : ∀ reach ∈ [(0 : Int), 1], ∀ entry ∈ hunk.nearAdded reach,
        ∀ number ∈ entry.1.newNumber?, number < 10 := by
      decide +kernel
    exact fun reach reach_mem entry entry_mem =>
      Line.isWritable_of_small (small reach reach_mem entry entry_mem)
  refine ⟨(narrow _).mpr ⟨writable 0 (by decide), narrow_rows.symm⟩,
    (wide _).mpr ⟨writable 1 (by decide), by decide +kernel⟩, ?_, widens 1 (by decide)⟩
  · rw [← narrow_rows]
    exact numbered_rows "d" 3 last_mem

/-- An added line whose number is too long to be written is near itself, so its hunk cannot be
shown at all. -/
theorem showHunk_fails_long_number :
    let limit := Nat.pow 10 maxDigits
    let hunk : Hunk :=
      { header := "@@ -0,0 +1,2 @@", oldStart := 0, oldCount := 0, newStart := limit - 1,
        newCount := 2, lines := [.added "a" (limit - 1), .added "b" limit] }
    hunk.hasAdditions = true ∧ ∀ shown, showHunk 3 hunk ≠ .ok shown := by
  intro limit hunk
  have last_mem : Line.added "b" limit ∈ hunk.lines := by simp [hunk]
  refine ⟨rfl, fun shown shows => ?_⟩
  obtain ⟨writable, -⟩ := showFrom_eq_ok_iff.mp shows
  exact Nat.lt_irrefl limit (lt_of_isWritable (by decide : (0 : Int) ≤ 3) writable last_mem)

end Hunk

end DiffReview
