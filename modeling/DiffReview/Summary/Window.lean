import DiffReview.Diff.Basic

/-!
# Windows

The lines of a hunk that are shown are those near its added lines.  One pass in either direction
finds how far the last added line reaches; a line is shown if it is reached in one of the two.
`mem_shownLines_iff` says that these are the lines with an added line near enough.
-/

namespace DiffReview.Summary

/-- For each line, whether it is an added line or at most `reach` lines behind one; of the lines
before the first added one, the first `left` are reached as well. -/
def reached (reach : Int) : Int → List Line → List Bool
  | _, [] => []
  | left, line :: rest =>
    let left := if line.isAdded then reach + 1 else left
    decide (0 < left) :: reached reach (left - 1) rest

/-- For each line, whether an added line is at most `reach` lines away on either side. -/
def shownMarks (reach : Int) (lines : List Line) : List Bool :=
  List.zipWith (· || ·) (reached reach 0 lines) (reached reach 0 lines.reverse).reverse

/-- The lines that are shown, with their indices. -/
def shownLines (reach : Int) (lines : List Line) : List (Line × Nat) :=
  ((lines.zipIdx.zip (shownMarks reach lines)).filter Prod.snd).map Prod.fst

/-- Whether an added line is at most `reach` lines away from an index, on either side. -/
def IsNearAdded (reach : Int) (lines : List Line) (index : Nat) : Prop :=
  ∃ other : Nat, lines[other]?.any Line.isAdded = true ∧
    (index : Int) - other ≤ reach ∧ (other : Int) - index ≤ reach

@[simp]
theorem length_reached (reach left : Int) (lines : List Line) :
    (reached reach left lines).length = lines.length := by
  induction lines generalizing left with
  | nil => rfl
  | cons line rest induction => simp [reached, induction]

theorem getElem?_reached_eq_some_true_iff {reach left : Int} {lines : List Line} {index : Nat}
    (bounded : left ≤ reach + 1 ∨ left ≤ 0) :
    (reached reach left lines)[index]? = some true ↔
      index < lines.length ∧
        ((index : Int) < left ∨
          ∃ other : Nat, other ≤ index ∧ lines[other]?.any Line.isAdded = true ∧
            (index : Int) - other ≤ reach) := by
  induction lines generalizing left index with
  | nil => simp [reached]
  | cons line rest induction =>
    cases index with
    | zero =>
      by_cases added : line.isAdded = true
      · simp [reached, added]
        omega
      · simp [reached, added]
    | succ index =>
      by_cases added : line.isAdded = true
      · have step := @induction reach index (by omega)
        simp only [reached, added, if_true, List.getElem?_cons_succ, List.length_cons,
          Int.add_sub_cancel, step]
        constructor
        · rintro ⟨short, near | ⟨other, before, found, near⟩⟩
          · exact ⟨by omega, .inr ⟨0, by omega, by simpa using added, by omega⟩⟩
          · exact ⟨by omega, .inr ⟨other + 1, by omega, by simpa using found, by omega⟩⟩
        · rintro ⟨short, near | ⟨other, before, found, near⟩⟩
          · exact ⟨by omega, .inl (by omega)⟩
          · cases other with
            | zero => exact ⟨by omega, .inl (by omega)⟩
            | succ other =>
              exact ⟨by omega, .inr ⟨other, by omega, by simpa using found, by omega⟩⟩
      · have step := @induction (left - 1) index (by omega)
        rw [Bool.not_eq_true] at added
        simp only [reached, added, Bool.false_eq_true, if_false, List.getElem?_cons_succ,
          List.length_cons, step]
        constructor
        · rintro ⟨short, near | ⟨other, before, found, near⟩⟩
          · exact ⟨by omega, .inl (by omega)⟩
          · exact ⟨by omega, .inr ⟨other + 1, by omega, by simpa using found, by omega⟩⟩
        · rintro ⟨short, near | ⟨other, before, found, near⟩⟩
          · exact ⟨by omega, .inl (by omega)⟩
          · cases other with
            | zero => simp [added] at found
            | succ other =>
              exact ⟨by omega, .inr ⟨other, by omega, by simpa using found, by omega⟩⟩

theorem length_shownMarks (reach : Int) (lines : List Line) :
    (shownMarks reach lines).length = lines.length := by
  simp [shownMarks]

theorem getElem?_reverse_any_isAdded {lines : List Line} {index : Nat}
    (short : index < lines.length) :
    lines.reverse[lines.length - 1 - index]?.any Line.isAdded = lines[index]?.any Line.isAdded := by
  rw [List.getElem?_reverse (by omega)]
  congr 3
  omega

theorem getElem?_shownMarks_eq_some_true_iff {reach : Int} {lines : List Line} {index : Nat} :
    (shownMarks reach lines)[index]? = some true ↔
      index < lines.length ∧ IsNearAdded reach lines index := by
  by_cases short : index < lines.length
  · have before := @getElem?_reached_eq_some_true_iff reach 0 lines index (.inr (by omega))
    have behind := @getElem?_reached_eq_some_true_iff reach 0 lines.reverse
      (lines.length - 1 - index) (.inr (by omega))
    have either : (shownMarks reach lines)[index]? = some true ↔
        (reached reach 0 lines)[index]? = some true ∨
          (reached reach 0 lines.reverse)[lines.length - 1 - index]? = some true := by
      have here : index < (reached reach 0 lines).length := by simpa using short
      have there : lines.length - 1 - index < (reached reach 0 lines.reverse).length := by
        simp
        omega
      rw [List.getElem?_eq_getElem here, List.getElem?_eq_getElem there]
      simp [shownMarks, short]
    rw [either, before, behind]
    simp only [List.length_reverse]
    constructor
    · rintro (⟨-, near | ⟨other, earlier, found, near⟩⟩ | ⟨-, near | ⟨other, later, found, near⟩⟩)
      · omega
      · exact ⟨short, other, found, by omega, by omega⟩
      · omega
      · have back := @getElem?_reverse_any_isAdded lines (lines.length - 1 - other) (by omega)
        rw [show lines.length - 1 - (lines.length - 1 - other) = other by omega] at back
        exact ⟨short, lines.length - 1 - other, by rw [← back]; exact found, by omega, by omega⟩
    · rintro ⟨-, other, found, above, below⟩
      have inside : other < lines.length := Decidable.byContradiction fun outside => by
        rw [List.getElem?_eq_none (by omega)] at found
        simp at found
      by_cases earlier : other ≤ index
      · exact .inl ⟨short, .inr ⟨other, earlier, found, above⟩⟩
      · refine .inr ⟨by omega, .inr ⟨lines.length - 1 - other, by omega, ?_, by omega⟩⟩
        rw [getElem?_reverse_any_isAdded inside]
        exact found
  · have long : (shownMarks reach lines)[index]? = none := by
      simp [length_shownMarks]
      omega
    simp [long, short]

theorem shownLines_sublist (reach : Int) (lines : List Line) :
    (shownLines reach lines).Sublist lines.zipIdx := by
  have zipped : (lines.zipIdx.zip (shownMarks reach lines)).map Prod.fst = lines.zipIdx := by
    apply List.map_fst_zip
    simp [length_shownMarks]
  rw [← zipped]
  exact List.filter_sublist.map _

/-- The lines that are shown are those with an added line near enough. -/
theorem mem_shownLines_iff {reach : Int} {lines : List Line} {line : Line} {index : Nat} :
    (line, index) ∈ shownLines reach lines ↔
      lines[index]? = some line ∧ IsNearAdded reach lines index := by
  have marked : (line, index) ∈ shownLines reach lines ↔
      ((line, index), true) ∈ lines.zipIdx.zip (shownMarks reach lines) := by
    simp [shownLines]
  rw [marked, List.mem_iff_getElem?]
  constructor
  · rintro ⟨position, found⟩
    simp only [List.getElem?_zip_eq_some, List.getElem?_zipIdx, Option.map_eq_some_iff,
      Prod.mk.injEq, Nat.zero_add] at found
    obtain ⟨⟨other, found, rfl, rfl⟩, shown⟩ := found
    exact ⟨found, (getElem?_shownMarks_eq_some_true_iff.mp shown).2⟩
  · rintro ⟨found, near⟩
    obtain ⟨short, -⟩ := List.getElem?_eq_some_iff.mp found
    have shown := getElem?_shownMarks_eq_some_true_iff.mpr ⟨short, near⟩
    exact ⟨index, by simp [List.getElem?_zip_eq_some, found, shown]⟩

end DiffReview.Summary
