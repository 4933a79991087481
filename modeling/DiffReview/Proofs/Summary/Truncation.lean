import DiffReview.Proofs.Diff.Writing
import DiffReview.Proofs.Summary.Unambiguous

/-!
# Summaries are cut

A summary holds the first rows of all sections, and behind them a notice with the number of rows that
had no room.  It is empty only if there is nothing to review, however few rows it may have.
-/

namespace DiffReview

open Summary Text

namespace Diff

/-- However few rows there may be, something is left of any section. -/
theorem IsPlain.intercalate_cutRows_eq_empty_iff {diff : Diff} {reach : Int}
    (plain : diff.IsPlain reach) (maxLines : Int) :
    "\n".intercalate (cutRows maxLines (diff.summaryRows reach)) = "" ↔
      diff.reviewableFiles = [] := by
  constructor
  · intro empty
    have one_line : ∀ row ∈ cutRows maxLines (diff.summaryRows reach), '\n' ∉ row.toList :=
      fun row => plain.newline_not_mem_of_mem_cutRows
    have no_rows := textRows_intercalate one_line
    rw [empty] at no_rows
    have none_left : nonblank (cutRows maxLines (diff.summaryRows reach)) = [] :=
      List.map_eq_nil_iff.mp no_rows.symm
    rw [nonblank_cutRows, List.append_eq_nil_iff] at none_left
    obtain ⟨none_kept, no_notice⟩ := none_left
    have none_omitted : countOmitted maxLines.toNat (diff.summaryRows reach) = 0 := by
      by_contra some_omitted
      rw [if_neg some_omitted] at no_notice
      contradiction
    rw [nonblank_take_eq none_omitted, summaryRows, nonblank_intercalate plain.areSeparable,
      List.flatten_eq_nil_iff] at none_kept
    rw [List.eq_nil_iff_forall_not_mem]
    intro file file_mem
    exact List.cons_ne_nil _ _ (none_kept _ (List.mem_map_of_mem file_mem))
  · intro none_reviewed
    have no_rows : diff.summaryRows reach = [] := by
      rw [summaryRows, none_reviewed]
      rfl
    rw [no_rows, cutRows, keptRows, countOmitted, List.take_nil, List.drop_nil]
    rfl

/-- The summary of a diff that has been read has the first rows of all sections, without a blank one
at the end, and then, exactly if others that are not blank stand behind them, a notice with their
number.  So there is at most one row more than asked for, all rows are there if they fit, and the
summary is empty exactly if nothing is worth reviewing.  It is written as long as the numbers of the
lines to be shown and of the notice can be, and otherwise writing fails. -/
theorem summary_cuts_rows {text : String} {reading : DiffReading}
    (readable : read text = .ok reading) (options : SummaryOptions) :
    let rows := reading.diff.summaryRows options.contextLines
    let lines := cutRows options.maxLines rows
    (∀ summary, reading.diff.summary options = .ok summary ↔
      (reading.diff.IsWritable options.contextLines ∧ IsCutWritable options.maxLines rows) ∧
        summary = "\n".intercalate lines) ∧
    (∀ parts, sections options.contextLines reading.diff = .ok parts →
      rows = [""].intercalate parts) ∧
    (∀ row ∈ lines, '\n' ∉ row.toList) ∧
    lines.length ≤ options.maxLines.toNat + 1 ∧
    (rows.length ≤ options.maxLines → lines = rows) ∧
    ("\n".intercalate lines = "" ↔ reading.diff.reviewableFiles = []) := by
  intro rows lines
  have plain := isPlain_of_read readable options.contextLines
  refine ⟨fun summary => summary_eq_ok_iff plain, ?_,
    fun row => plain.newline_not_mem_of_mem_cutRows,
    length_cutRows_le options.maxLines rows,
    cutRows_eq_self plain.areSeparable,
    plain.intercalate_cutRows_eq_empty_iff options.maxLines⟩
  intro parts writes
  obtain ⟨-, rfl⟩ := sections_eq_ok_iff.mp writes
  rfl

/-- The summary ends behind the first of two sections: the blank row is dropped and not counted. -/
theorem summary_cuts_rows_between_sections :
    let text := "diff --git a/x b/x\n@@ -1 +1,2 @@\n old\n+new\n" ++
      "diff --git a/y b/y\n@@ -0,0 +1 @@\n+more"
    let summary := "--- File: x (modified) ---\n@@ -1 +1,2 @@\n+    2 | new\n" ++
      "[diff truncated: 3 more line(s) omitted to stay within 4 lines]"
    ∃ reading, read text = .ok reading ∧
      reading.diff.summary { contextLines := 0, maxLines := 4 } = .ok summary ∧
      (summary = "" ↔ reading.diff.reviewableFiles = []) := by
  intro text summary
  let first : FileDiff :=
    { filename := "x", status := .modified, hunks := [
      { header := "@@ -1 +1,2 @@", oldStart := 1, oldCount := 1, newStart := 1, newCount := 2,
        lines := [.context "old" 1 1, .added "new" 2] }] }
  let second : FileDiff :=
    { filename := "y", status := .modified, hunks := [
      { header := "@@ -0,0 +1 @@", oldStart := 0, oldCount := 0, newStart := 1, newCount := 1,
        lines := [.added "more" 1] }] }
  let reading : DiffReading := ⟨⟨[first, second]⟩, 0⟩
  let options : SummaryOptions := { contextLines := 0, maxLines := 4 }
  have readable : read text = .ok reading := by decide +kernel
  obtain ⟨summarizes, -, -, -, -, empty_iff⟩ := summary_cuts_rows readable options
  have reviewed : reading.diff.reviewableFiles = [first, second] := by decide +kernel
  have small : ∀ file ∈ [first, second], ∀ hunk ∈ file.hunks,
      ∀ entry ∈ shownLines 0 hunk.lines, ∀ number ∈ entry.1.newNumber?, number < 10 := by
    decide +kernel
  have writable : reading.diff.IsWritable 0 := by
    rw [IsWritable, reviewed]
    intro file file_mem hunk hunk_mem entry entry_mem
    exact Line.isWritable_of_small (small file file_mem hunk hunk_mem entry entry_mem)
  have omitted_eq : countOmitted 4 (reading.diff.summaryRows 0) = 3 := by
    rw [summaryRows, reviewed]
    decide +kernel
  have cut_writable : IsCutWritable 4 (reading.diff.summaryRows 0) := by
    have small : ∀ number, number < 10 → number < Nat.pow 10 maxDigits :=
      fun _ below => Nat.lt_of_lt_of_le below ten_le_pow_maxDigits
    intro _
    exact ⟨small _ (lt_of_eq_of_lt omitted_eq (by decide)), small 4 (by decide)⟩
  have summary_eq : "\n".intercalate (cutRows 4 (reading.diff.summaryRows 0)) = summary := by
    rw [summaryRows, reviewed]
    decide +kernel
  refine ⟨reading, readable,
    (summarizes summary).mpr ⟨⟨writable, cut_writable⟩, summary_eq.symm⟩, ?_⟩
  rw [← summary_eq]
  exact empty_iff

/-! ## Numbers that are too long -/

/-- The range of a hunk that only adds two lines. -/
def rangeOfTwo (number : Nat) : HunkRange where
  oldStart := 0
  oldCount := 0
  newStart := number
  newCount := 2

theorem isReadable_rangeOfTwo {number : Nat} (small : number < Nat.pow 10 maxDigits) :
    (rangeOfTwo number).IsReadable := by
  have ten_le := ten_le_pow_maxDigits
  rw [HunkRange.IsReadable]
  generalize Nat.pow 10 maxDigits = limit at small ten_le ⊢
  intro other other_mem
  simp [rangeOfTwo] at other_mem
  omega

/-- A hunk that adds two lines, the first of them with the given number. -/
def twoAddedLines (number : Nat) (small : number < Nat.pow 10 maxDigits) : HunkOutline where
  range := rangeOfTwo number
  isReadable := isReadable_rangeOfTwo small
  suffix := { text := "", isOneLine := by decide }
  entries := [(.added, { text := "a", isOneLine := by decide }),
    (.added, { text := "b", isOneLine := by decide })]

/-- A file of one hunk. -/
def fileOfHunk (hunk : HunkOutline) : FileOutline :=
  let path : RelativePath :=
    { text := "x", isOneLine := by decide, ne_nil := by decide, head?_ne := by decide }
  { oldPath := path, newPath := path, not_infix := by decide, fate := .kept, hunks := [hunk] }

theorem rows_fileOfHunk (hunk : HunkOutline) :
    (fileOfHunk hunk).rows =
      ["diff --git a/x b/x".toList, "--- a/x".toList, "+++ b/x".toList] ++ hunk.rows := by
  have header_eq : (fileOfHunk hunk).headerRow = "diff --git a/x b/x".toList := by
    have spelled : (fileOfHunk hunk).headerRow =
        "diff --git a/".toList ++ "x".toList ++ " b/".toList ++ "x".toList := rfl
    exact spelled.trans (by decide +kernel)
  have markers_eq : (fileOfHunk hunk).markerRows = ["--- a/x".toList, "+++ b/x".toList] := by
    have spelled : (fileOfHunk hunk).markerRows = [Side.old.markerRow (some "x".toList),
        Side.new.markerRow (some "x".toList)] := rfl
    exact spelled.trans (by decide +kernel)
  have spelled : (fileOfHunk hunk).rows =
      (fileOfHunk hunk).headerRow :: ((fileOfHunk hunk).markerRows ++ (hunk.rows ++ [])) := rfl
  rw [spelled, header_eq, markers_eq, List.append_nil]
  rfl

section TwoAddedLines

variable {number : Nat} (small : number < Nat.pow 10 maxDigits)

theorem rows_twoAddedLines :
    (twoAddedLines number small).rows =
      [("@@ -0,0 +" ++ String.ofList (Nat.toDigits 10 number) ++ ",2 @@").toList, "+a".toList,
        "+b".toList] := by
  have header_eq : (twoAddedLines number small).headerRow =
      ("@@ -0,0 +" ++ String.ofList (Nat.toDigits 10 number) ++ ",2 @@").toList := by
    have spelled : (twoAddedLines number small).headerRow = "@@ -".toList ++ rangeText 0 0 ++
        " +".toList ++ rangeText number 2 ++ " @@".toList ++ "".toList := rfl
    have above : "@@ -".toList ++ rangeText 0 0 ++ " +".toList = "@@ -0,0 +".toList := by
      decide +kernel
    have below : ',' :: Nat.toDigits 10 2 ++ (" @@".toList ++ "".toList) = ",2 @@".toList := by
      decide +kernel
    have digits_eq : (String.ofList (Nat.toDigits 10 number)).toList = Nat.toDigits 10 number :=
      String.toList_ofList
    rw [spelled, above, rangeText, String.toList_append, String.toList_append, digits_eq, ← below,
      List.append_assoc, List.append_assoc, List.append_assoc, List.append_assoc]
  have spelled : (twoAddedLines number small).rows =
      [(twoAddedLines number small).headerRow, '+' :: "a".toList, '+' :: "b".toList] := rfl
  have first_eq : '+' :: "a".toList = "+a".toList := by decide +kernel
  have last_eq : '+' :: "b".toList = "+b".toList := by decide +kernel
  rw [spelled, header_eq, first_eq, last_eq]

theorem lines_twoAddedLines :
    (twoAddedLines number small).hunk.lines = [.added "a" number, .added "b" (number + 1)] := by
  simp [HunkOutline.hunk, twoAddedLines, rangeOfTwo, numbered, LineKind.line, LineKind.inNew]

theorem isReviewable_twoAddedLines :
    (fileOfHunk (twoAddedLines number small)).file.isReviewable = true := by
  have file_lines : (fileOfHunk (twoAddedLines number small)).file.lines =
      (twoAddedLines number small).hunk.lines := List.append_nil _
  have additions_eq : (fileOfHunk (twoAddedLines number small)).file.additions = 2 := by
    rw [FileDiff.additions, file_lines, lines_twoAddedLines]
    rfl
  have included : Path.isExcluded "x" = false := by decide +kernel
  have filename_eq : (fileOfHunk (twoAddedLines number small)).file.filename = "x" := rfl
  rw [FileDiff.isReviewable, additions_eq, filename_eq, included]
  rfl

end TwoAddedLines

/-- A diff may number a line with more digits than can be written, and then has no summary. -/
theorem summary_fails_long_number :
    let limit := Nat.pow 10 maxDigits
    let digits := String.ofList (Nat.toDigits 10 (limit - 1))
    let rows := ["diff --git a/x b/x", "--- a/x", "+++ b/x", "@@ -0,0 +" ++ digits ++ ",2 @@", "+a",
      "+b"]
    ∃ reading, read ("\n".intercalate rows) = .ok reading ∧
      ∀ summary, reading.diff.summary {} ≠ .ok summary := by
  intro limit digits rows
  have limit_pos : 0 < limit := Nat.lt_of_lt_of_le (by decide) ten_le_pow_maxDigits
  have small : limit - 1 < Nat.pow 10 maxDigits := Nat.sub_one_lt_of_lt limit_pos
  let hunk := twoAddedLines (limit - 1) small
  have rows_eq : rows.map String.toList = (fileOfHunk hunk).rows := by
    rw [rows_fileOfHunk, rows_twoAddedLines]
    rfl
  obtain ⟨reading, readable, files_eq⟩ := exists_read_intercalate rows_eq
  refine ⟨reading, readable, ?_⟩
  intro summary summarizes
  have plain := isPlain_of_read readable ({} : SummaryOptions).contextLines
  obtain ⟨⟨writable, -⟩, -⟩ := (summary_eq_ok_iff plain).mp summarizes
  have reviewed : (fileOfHunk hunk).file ∈ reading.diff.reviewableFiles :=
    mem_reviewableFiles_iff.mpr ⟨files_eq ▸ List.mem_cons_self, isReviewable_twoAddedLines small⟩
  have last_mem : .added "b" (limit - 1 + 1) ∈ hunk.hunk.lines := by
    rw [lines_twoAddedLines]
    exact List.mem_cons_of_mem _ List.mem_cons_self
  have short := lt_of_isWritable (by decide)
    (writable (fileOfHunk hunk).file reviewed hunk.hunk List.mem_cons_self) last_mem
  rw [Nat.sub_add_cancel limit_pos] at short
  exact Nat.lt_irrefl limit short

end Diff

end DiffReview
