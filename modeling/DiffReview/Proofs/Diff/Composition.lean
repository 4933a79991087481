import DiffReview.Proofs.Diff.Attribution
import DiffReview.Proofs.Findings

/-!
# Diffs one after the other

Where one text ends with a line and the next one starts with a file header, each is read as if it
stood alone.  What is found in the two diffs is then what is found in either, except that the size
of a change is that of both together.
-/

namespace DiffReview

open Text

namespace Diff

/-- The files of one diff and then those of another one. -/
instance : Append Diff where
  append left right := ⟨left.files ++ right.files⟩

@[simp]
theorem files_append (left right : Diff) : (left ++ right).files = left.files ++ right.files := rfl

theorem additions_append (left right : Diff) :
    (left ++ right).additions = left.additions + right.additions := by
  simp [additions]

theorem deletions_append (left right : Diff) :
    (left ++ right).deletions = left.deletions + right.deletions := by
  simp [deletions]

end Diff

theorem Rule.scan_append (rules : List Rule) (left right : Diff) :
    scan rules (left ++ right) = scan rules left ++ scan rules right := by
  simp [scan]

/-- All comments but the one about the size are about single files. -/
theorem Limits.checkApartFrom_append (limits : Limits) (left right : Diff) :
    limits.checkApartFrom .largeChange (left ++ right) = do
      let leftComments ← limits.checkApartFrom .largeChange left
      let rightComments ← limits.checkApartFrom .largeChange right
      return leftComments ++ rightComments := by
  simp only [checkApartFrom_eq_mapM (by decide : Excess.Kind.largeChange ≠ .longFunction),
    filter_findings_ne_largeChange, Diff.files_append, List.flatMap_append, List.mapM_append]

namespace Diff

theorem filesOf_lines_eq_error_iff {text : String} {error : DigitLimitError} :
    filesOf (lines text.toList) = .error error ↔ read text = .error error := by
  rw [read_eq_error_iff_foldlM, filesOf]
  cases (lines text.toList).foldlM ReadState.read {} with
  | error other => simp [Except.map]
  | ok state => simp [Except.map]

section Seam

variable {front back : String} (ended : front = "" ∨ front.toList.getLast? = some '\n')
  (starts : ∃ row ∈ (lines back.toList).head?, IsFileHeader row)

include ended starts

/-- The files of two texts are those of the first one and then those of the second one; the first
text is read before the second one. -/
theorem filesOf_lines_append :
    filesOf (lines (front ++ back).toList) =
      (filesOf (lines front.toList)).bind fun files =>
        (filesOf (lines back.toList)).map (files ++ ·) := by
  have front_ended : front.toList = [] ∨ front.toList.getLast? = some '\n' :=
    ended.imp_left fun empty => by rw [empty]; rfl
  obtain ⟨rows, front_lines, follows⟩ := exists_lines_append front_ended
  obtain ⟨row, first, isHeader⟩ := starts
  obtain ⟨rest, back_lines⟩ := List.head?_eq_some_iff.mp first
  -- The empty row at the end of the first text says nothing.
  have front_files : filesOf (rows ++ [[]]) = filesOf rows := by
    apply filesOf_append_of_isNoise
    rw [List.forall_mem_singleton]
    exact isNoise_nil
  rw [String.toList_append, follows, front_lines, front_files, back_lines]
  exact filesOf_append_cons_of_isFileHeader isHeader rows rest

theorem read_append_eq_error_iff {error : DigitLimitError} :
    read (front ++ back) = .error error ↔
      read front = .error error ∨
        (∃ reading, read front = .ok reading) ∧ read back = .error error := by
  have whole_files := filesOf_lines_append ended starts
  rw [← filesOf_lines_eq_error_iff, ← filesOf_lines_eq_error_iff, ← filesOf_lines_eq_error_iff,
    whole_files]
  cases front_files : filesOf (lines front.toList) with
  | error earlier =>
      have unread : ¬∃ reading, read front = .ok reading := by
        rintro ⟨reading, front_read⟩
        have read_files := filesOf_lines_eq_ok_iff.mpr ⟨reading, front_read, rfl⟩
        simp [front_files] at read_files
      simp [Except.bind, unread]
  | ok files =>
      obtain ⟨reading, front_read, -⟩ := filesOf_lines_eq_ok_iff.mp front_files
      cases back_files : filesOf (lines back.toList) with
      | error later => simp [Except.bind, Except.map, front_read]
      | ok more => simp [Except.bind, Except.map]

theorem exists_read_append {first second : DiffReading} (front_read : read front = .ok first)
    (back_read : read back = .ok second) :
    ∃ whole, read (front ++ back) = .ok whole ∧ whole.diff = first.diff ++ second.diff := by
  have whole_files := filesOf_lines_append ended starts
  rw [filesOf_lines_eq_ok_iff.mpr ⟨first, front_read, rfl⟩,
    filesOf_lines_eq_ok_iff.mpr ⟨second, back_read, rfl⟩] at whole_files
  obtain ⟨whole, whole_read, files_eq⟩ := filesOf_lines_eq_ok_iff.mp whole_files
  exact ⟨whole, whole_read, congrArg Diff.mk files_eq⟩

end Seam

/-- A text after which another one starts with a file header is read first, and what fails there
fails for both together.  Else both are read, the files are put together, and so is all that is
found in single files; that can be worded where it can be for both. -/
theorem read_append {front back : String} (ended : front = "" ∨ front.toList.getLast? = some '\n')
    (starts : ∃ row ∈ (lines back.toList).head?, IsFileHeader row) :
    (∀ error, read (front ++ back) = .error error ↔
      read front = .error error ∨
        (∃ reading, read front = .ok reading) ∧ read back = .error error) ∧
    ∀ first second, read front = .ok first → read back = .ok second →
      ∃ whole, read (front ++ back) = .ok whole ∧
        whole.diff.files = first.diff.files ++ second.diff.files ∧
        (∀ rules, Rule.scan rules whole.diff =
          Rule.scan rules first.diff ++ Rule.scan rules second.diff) ∧
        whole.diff.additions = first.diff.additions + second.diff.additions ∧
        whole.diff.deletions = first.diff.deletions + second.diff.deletions ∧
        ∀ limits : Limits,
          limits.checkApartFrom .largeChange whole.diff = do
            let firstComments ← limits.checkApartFrom .largeChange first.diff
            let secondComments ← limits.checkApartFrom .largeChange second.diff
            return firstComments ++ secondComments := by
  refine ⟨fun error => read_append_eq_error_iff ended starts, ?_⟩
  intro first second front_read back_read
  obtain ⟨whole, whole_read, diff_eq⟩ := exists_read_append ended starts front_read back_read
  refine ⟨whole, whole_read, ?_⟩
  rw [diff_eq]
  exact ⟨files_append _ _, fun rules => Rule.scan_append rules _ _, additions_append _ _,
    deletions_append _ _, fun limits => limits.checkApartFrom_append _ _⟩

/-- The first text ends within a hunk, and the second one has other line breaks. -/
theorem read_append_two_files :
    let front := "diff --git a/x b/x\n@@ -0,0 +1 @@\n+debugger\n"
    let back := "diff --git a/y b/y\r\n@@ -0,0 +7 @@\r\n+debugger\r\n-old"
    front.toList.getLast? = some '\n' ∧
      (∃ row ∈ (lines back.toList).head?, IsFileHeader row) ∧
        ∃ whole, read (front ++ back) = .ok whole ∧ whole.diff.filenames = ["x", "y"] ∧
          Rule.scan [.debuggerStatement] whole.diff =
            [Rule.debuggerStatement.comment "x" 1, Rule.debuggerStatement.comment "y" 7] ∧
          whole.diff.additions = 2 ∧ whole.diff.deletions = 1 := by
  intro front back
  have ended : front.toList.getLast? = some '\n' := by decide
  have starts : ∃ row ∈ (lines back.toList).head?, IsFileHeader row :=
    ⟨"diff --git a/y b/y".toList, by decide +kernel, ⟨['y'], ['y']⟩,
      FileHeader.ofLine?_eq_some_iff.mp rfl⟩
  let first : FileDiff :=
    { filename := "x", status := .modified, hunks := [
      { header := "@@ -0,0 +1 @@", oldStart := 0, oldCount := 0, newStart := 1, newCount := 1,
        lines := [.added "debugger" 1] }] }
  let second : FileDiff :=
    { filename := "y", status := .modified, hunks := [
      { header := "@@ -0,0 +7 @@", oldStart := 0, oldCount := 0, newStart := 7, newCount := 1,
        lines := [.added "debugger" 7, .removed "old" 0] }] }
  have front_read : read front = .ok ⟨⟨[first]⟩, 1⟩ := by decide +kernel
  have back_read : read back = .ok ⟨⟨[second]⟩, 0⟩ := by decide +kernel
  obtain ⟨whole, whole_read, files_eq, scan_eq, additions_eq, deletions_eq, -⟩ :=
    (read_append (.inr ended) starts).2 _ _ front_read back_read
  refine ⟨ended, starts, whole, whole_read, ?_, ?_, additions_eq, deletions_eq⟩
  · rw [filenames, files_eq]
    rfl
  · rw [scan_eq]
    rfl

end Diff

end DiffReview
