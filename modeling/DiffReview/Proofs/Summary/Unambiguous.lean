import DiffReview.Proofs.Diff.Patch
import DiffReview.Proofs.Summary.Shown

/-!
# Summaries are unambiguous

What a summary shows can be told from its text, whatever the paths, headers and lines of the diff
are: each kind of row starts in a way of its own, a row that opens a file tells its path and status,
and a row of a line tells its number and content.  No line of a diff can pass for a file header.
-/

namespace DiffReview

open Text

namespace Summary

/-! ## Rows tell what they show -/

/-- Digits behind blanks and before a blank can be told from the text. -/
theorem padStart_toDigits_inj {width left right : Nat} {leftRest rightRest : List Char}
    (same : padStart width (Nat.toDigits 10 left) ++ ' ' :: leftRest =
      padStart width (Nat.toDigits 10 right) ++ ' ' :: rightRest) :
    left = right ∧ leftRest = rightRest := by
  have no_blank : ∀ number, ' ' ∉ Nat.toDigits 10 number := not_mem_toDigits (by decide)
  have unpadded : ∀ number rest,
      (padStart width (Nat.toDigits 10 number) ++ ' ' :: rest).dropWhile (· == ' ') =
        Nat.toDigits 10 number ++ ' ' :: rest := by
    intro number rest
    obtain ⟨first, others, digits_eq⟩ :=
      List.exists_cons_of_ne_nil (Nat.toDigits_ne_nil : Nat.toDigits 10 number ≠ [])
    have first_digit : first ≠ ' ' := by
      rintro rfl
      exact no_blank number (digits_eq ▸ List.mem_cons_self)
    rw [padStart, List.append_assoc, List.dropWhile_append_of_pos (by simp), digits_eq,
      List.cons_append, List.dropWhile_cons_of_neg (by simpa using first_digit)]
  have before_blank : ∀ number rest,
      (Nat.toDigits 10 number ++ ' ' :: rest).takeWhile (· != ' ') = Nat.toDigits 10 number := by
    intro number rest
    have others : ∀ digit ∈ Nat.toDigits 10 number, (digit != ' ') = true := by
      intro digit mem
      exact bne_iff_ne.mpr fun blank => no_blank number (blank ▸ mem)
    rw [List.takeWhile_append_of_pos others, List.takeWhile_cons_of_neg (by simp), List.append_nil]
  have from_digits := congrArg (List.dropWhile (· == ' ')) same
  rw [unpadded, unpadded] at from_digits
  have digits_eq := congrArg (List.takeWhile (· != ' ')) from_digits
  rw [before_blank, before_blank] at digits_eq
  rw [digits_eq, List.append_cancel_left_eq, List.cons.injEq] at from_digits
  refine ⟨?_, from_digits.2⟩
  rw [← digitsValue_toDigits left, digits_eq, digitsValue_toDigits]

theorem numberedRow_toDigits_inj {sigil : Char} {left right : Nat}
    {leftContent rightContent : String}
    (same : numberedRow sigil (Nat.toDigits 10 left) leftContent =
      numberedRow sigil (Nat.toDigits 10 right) rightContent) :
    left = right ∧ leftContent = rightContent := by
  simp only [numberedRow, List.cons_append, List.append_assoc, List.cons.injEq, true_and] at same
  obtain ⟨number_eq, rest_eq⟩ := padStart_toDigits_inj same
  have content_eq := @List.append_cancel_left _ ['|', ' '] _ _ rest_eq
  exact ⟨number_eq, String.toList_inj.mp content_eq⟩

theorem Entry.row_injective : Function.Injective Entry.row := by
  intro left right same
  cases left with
  | gap => cases right <;> simp [row, numberedRow] at same ⊢
  | added number content =>
      cases right with
      | added otherNumber otherContent =>
          obtain ⟨rfl, rfl⟩ := numberedRow_toDigits_inj same
          rfl
      | _ => simp [row, numberedRow] at same
  | removed content =>
      cases right with
      | removed otherContent =>
          rw [row, row, numberedRow, numberedRow, List.append_cancel_left_eq,
            String.toList_inj] at same
          rw [same]
      | _ => simp [row, numberedRow] at same
  | context number content =>
      cases right with
      | context otherNumber otherContent =>
          obtain ⟨rfl, rfl⟩ := numberedRow_toDigits_inj same
          rfl
      | _ => simp [row, numberedRow] at same

/-- A row that opens a file. -/
def opensFile (row : List Char) : Bool :=
  "--- File: ".toList.isPrefixOf row

/-- A row that opens a hunk. -/
def opensHunk (row : List Char) : Bool :=
  row.head? == some '@'

theorem opensFile_eq_false {row : List Char} {first : Char} (starts : row.head? = some first)
    (other : first ≠ '-') : opensFile row = false := by
  obtain ⟨rest, rfl⟩ := List.head?_eq_some_iff.mp starts
  have differs : ('-' == first) = false := beq_eq_false_iff_ne.mpr other.symm
  simp [opensFile, List.isPrefixOf, differs]

theorem Entry.opensFile_row (entry : Entry) : opensFile entry.row = false := by
  cases entry <;> rfl

theorem Entry.opensHunk_row (entry : Entry) : opensHunk entry.row = false := by
  cases entry <;> rfl

/-- The end of a row that opens a file. -/
def statusEnding (status : FileStatus) : List Char :=
  " (".toList ++ status.name.toList ++ ") ---".toList

namespace ShownFile

theorem headerRow_eq (file : ShownFile) :
    file.headerRow =
      "--- File: ".toList ++ (file.filename.toList ++ statusEnding file.status) := by
  unfold headerRow statusEnding
  simp only [List.append_assoc]

theorem opensFile_headerRow (file : ShownFile) : opensFile file.headerRow = true := by
  rw [opensFile, List.isPrefixOf_iff_prefix, headerRow_eq]
  exact List.prefix_append _ _

/-- A path and a status can be told from the row that opens their file. -/
theorem headerRow_inj {left right : ShownFile} (same : left.headerRow = right.headerRow) :
    left.filename = right.filename ∧ left.status = right.status := by
  rw [headerRow_eq, headerRow_eq, List.append_cancel_left_eq] at same
  have status_eq : left.status = right.status := by
    have left_ends :
        statusEnding left.status <:+ right.filename.toList ++ statusEnding right.status :=
      same ▸ List.suffix_append _ _
    have comparable := List.suffix_or_suffix_of_suffix left_ends (List.suffix_append _ _)
    revert comparable
    cases left.status <;> cases right.status <;> decide
  rw [status_eq, List.append_cancel_right_eq, String.toList_inj] at same
  exact ⟨same, status_eq⟩

end ShownFile

/-! ## Rows are single lines -/

theorem ShownFile.newline_not_mem_headerRow {file : ShownFile}
    (filename : '\n' ∉ file.filename.toList) : '\n' ∉ file.headerRow := by
  have in_ending : '\n' ∉ statusEnding file.status := by cases file.status <;> decide
  rw [headerRow_eq, List.mem_append, List.mem_append, not_or, not_or]
  exact ⟨by decide, filename, in_ending⟩

theorem newline_not_mem_numberedRow {sigil : Char} {digits : List Char} {content : String}
    (in_sigil : sigil ≠ '\n') (in_digits : '\n' ∉ digits) (in_content : '\n' ∉ content.toList) :
    '\n' ∉ numberedRow sigil digits content := by
  simp [numberedRow, padStart, in_sigil.symm, in_digits, in_content]

theorem Entry.newline_not_mem_row_ofLine {line : Line}
    (in_content : '\n' ∉ line.content.toList) : '\n' ∉ (ofLine line).row := by
  have in_digits : ∀ number, '\n' ∉ Nat.toDigits 10 number := not_mem_toDigits (by decide)
  cases line with
  | added content number =>
      exact newline_not_mem_numberedRow (by decide) (in_digits number) in_content
  | removed content number =>
      exact newline_not_mem_numberedRow (by decide) List.not_mem_nil in_content
  | context content oldNumber number =>
      exact newline_not_mem_numberedRow (by decide) (in_digits number) in_content

/-! ## Blocks of rows -/

/-- Rows of which the first one opens a block, and no other does. -/
def IsBlock {α : Type} (opens : α → Bool) (rows : List α) : Prop :=
  ∃ first rest, rows = first :: rest ∧ opens first = true ∧ ∀ row ∈ rest, opens row = false

section Blocks

variable {α β : Type} {opens : α → Bool} {rows : β → List α} {fits : β → Prop}
  (isBlock : ∀ item, fits item → IsBlock opens (rows item))

include isBlock

/-- A block ends where the next one opens. -/
theorem takeWhile_append_flatMap {rest : List α} (closed : ∀ row ∈ rest, opens row = false)
    {items : List β} (items_fit : ∀ item ∈ items, fits item) :
    (rest ++ items.flatMap rows).takeWhile (fun row => !opens row) = rest := by
  have stops : (items.flatMap rows).takeWhile (fun row => !opens row) = [] := by
    cases items with
    | nil => rfl
    | cons item items =>
        obtain ⟨first, others, rows_eq, opens_first, -⟩ :=
          isBlock item (items_fit item List.mem_cons_self)
        simp [rows_eq, opens_first]
  rw [List.takeWhile_append_of_pos (by simpa using closed), stops, List.append_nil]

/-- What can be told from each block can be told from all their rows. -/
theorem eq_of_flatMap_eq (inj : ∀ {left right}, fits left → fits right →
      rows left = rows right → left = right) {left right : List β}
    (left_fit : ∀ item ∈ left, fits item) (right_fit : ∀ item ∈ right, fits item)
    (same : left.flatMap rows = right.flatMap rows) : left = right := by
  have nonempty : ∀ item, fits item → ∀ others : List α, rows item ++ others ≠ [] := by
    intro item item_fits others
    obtain ⟨first, rest, rows_eq, -, -⟩ := isBlock item item_fits
    simp [rows_eq]
  induction left generalizing right with
  | nil =>
      cases right with
      | nil => rfl
      | cons item right =>
          rw [List.flatMap_cons] at same
          exact absurd same.symm (nonempty item (right_fit item List.mem_cons_self) _)
  | cons item left induction =>
      rw [List.forall_mem_cons] at left_fit
      cases right with
      | nil =>
          rw [List.flatMap_cons] at same
          exact absurd same (nonempty item left_fit.1 _)
      | cons other right =>
          rw [List.forall_mem_cons] at right_fit
          obtain ⟨first, rest, rows_eq, -, closed⟩ := isBlock item left_fit.1
          obtain ⟨otherFirst, otherRest, other_eq, -, otherClosed⟩ := isBlock other right_fit.1
          rw [List.flatMap_cons, List.flatMap_cons, rows_eq, other_eq, List.cons_append,
            List.cons_append, List.cons.injEq] at same
          -- The first rows agree, and either first block goes on up to the next row that opens one.
          obtain ⟨rfl, same⟩ := same
          have rest_eq := congrArg (List.takeWhile fun row => !opens row) same
          rw [takeWhile_append_flatMap isBlock closed left_fit.2,
            takeWhile_append_flatMap isBlock otherClosed right_fit.2] at rest_eq
          obtain rfl := rest_eq
          rw [List.append_cancel_left_eq] at same
          rw [inj left_fit.1 right_fit.1 (rows_eq.trans other_eq.symm),
            induction left_fit.2 right_fit.2 same]

end Blocks

namespace ShownHunk

/-- The header of the hunk looks like one. -/
def IsMarked (hunk : ShownHunk) : Prop :=
  opensHunk hunk.header.toList = true

theorem isBlock_rows (hunk : ShownHunk) (marked : hunk.IsMarked) :
    IsBlock opensHunk hunk.rows := by
  refine ⟨_, _, rfl, marked, ?_⟩
  intro row row_mem
  obtain ⟨entry, -, rfl⟩ := List.mem_map.mp row_mem
  exact entry.opensHunk_row

theorem rows_injective : Function.Injective rows := by
  intro left right same
  rw [rows, rows, List.cons.injEq, String.toList_inj] at same
  obtain ⟨header_eq, entries_eq⟩ := same
  exact ShownHunk.ext header_eq (List.map_injective_iff.mpr Entry.row_injective entries_eq)

end ShownHunk

namespace ShownFile

/-- The headers of all hunks look like one. -/
def IsMarked (file : ShownFile) : Prop :=
  ∀ hunk ∈ file.hunks, hunk.IsMarked

theorem isBlock_rows (file : ShownFile) (marked : file.IsMarked) : IsBlock opensFile file.rows := by
  refine ⟨_, _, rfl, file.opensFile_headerRow, ?_⟩
  intro row row_mem
  obtain ⟨hunk, hunk_mem, row_mem⟩ := List.mem_flatMap.mp row_mem
  rcases List.mem_cons.mp row_mem with rfl | row_mem
  · exact opensFile_eq_false (beq_iff_eq.mp (marked hunk hunk_mem)) (by decide)
  · obtain ⟨entry, -, rfl⟩ := List.mem_map.mp row_mem
    exact entry.opensFile_row

theorem rows_inj {left right : ShownFile} (left_marked : left.IsMarked)
    (right_marked : right.IsMarked) (same : left.rows = right.rows) : left = right := by
  rw [rows, rows, List.cons.injEq] at same
  obtain ⟨header_eq, below_eq⟩ := same
  have hunks_eq := eq_of_flatMap_eq ShownHunk.isBlock_rows
    (fun _ _ rows_eq => ShownHunk.rows_injective rows_eq) left_marked right_marked below_eq
  obtain ⟨filename_eq, status_eq⟩ := headerRow_inj header_eq
  exact ShownFile.ext filename_eq status_eq hunks_eq

end ShownFile

end Summary

open Summary

/-! ## Rows of diffs that have been read -/

/-- No part of the file breaks a line, and the headers of hunks look like that. -/
structure FileDiff.IsUnbroken (file : FileDiff) : Prop where
  filename : '\n' ∉ file.filename.toList
  header : ∀ hunk ∈ file.hunks, '\n' ∉ hunk.header.toList
  content : ∀ hunk ∈ file.hunks, ∀ line ∈ hunk.lines, '\n' ∉ line.content.toList
  marked : ∀ hunk ∈ file.hunks, opensHunk hunk.header.toList = true

theorem HunkSection.exists_row_of_mem_lines {hunkSection : HunkSection} {line : Line}
    (line_mem : line ∈ hunkSection.hunk.lines) :
    ∃ row ∈ hunkSection.body, row = line.sigil :: line.content.toList := by
  have rendered : line.render ∈
      (hunkSection.body.filter LineKind.marks).map String.ofList := by
    rw [← map_render_numbered]
    exact List.mem_map_of_mem line_mem
  obtain ⟨row, row_mem, row_eq⟩ := List.mem_map.mp rendered
  exact ⟨row, List.mem_of_mem_filter row_mem, String.ofList_injective row_eq⟩

theorem FileSection.isUnbroken_file {fileSection : FileSection} (cut : fileSection.IsCut)
    (one_line : ∀ row ∈ fileSection.rows, '\n' ∉ row) : fileSection.file.IsUnbroken := by
  have row_one_line : ∀ hunk ∈ fileSection.hunks, ∀ row ∈ hunk.rows, '\n' ∉ row := by
    intro hunk hunk_mem row row_mem
    refine one_line row (List.mem_cons_of_mem _ (List.mem_append_right _ ?_))
    exact List.mem_flatMap_of_mem hunk_mem row_mem
  refine ⟨?_, ?_, ?_, ?_⟩
  · have line_eq := cut.heads.spelled.line_eq
    have row_plain := one_line _ List.mem_cons_self
    rw [line_eq, List.mem_append, not_or] at row_plain
    rw [file, String.toList_ofList]
    exact row_plain.2
  · rintro _ hunk_mem
    obtain ⟨hunk, section_mem, rfl⟩ := List.mem_map.mp hunk_mem
    rw [HunkSection.hunk, String.toList_ofList]
    exact row_one_line hunk section_mem _ List.mem_cons_self
  · rintro _ hunk_mem line line_mem
    obtain ⟨hunk, section_mem, rfl⟩ := List.mem_map.mp hunk_mem
    obtain ⟨row, row_mem, rfl⟩ := HunkSection.exists_row_of_mem_lines line_mem
    have row_plain := row_one_line hunk section_mem _ (List.mem_cons_of_mem _ row_mem)
    exact fun newline_mem => row_plain (List.mem_cons_of_mem _ newline_mem)
  · rintro _ hunk_mem
    obtain ⟨hunk, section_mem, rfl⟩ := List.mem_map.mp hunk_mem
    obtain ⟨suffix, row_eq⟩ := (cut.hunks hunk section_mem).heads.line_eq
    rw [HunkSection.hunk, String.toList_ofList, row_eq]
    rfl

theorem Diff.isUnbroken_of_mem {text : String} {reading : DiffReading}
    (readable : read text = .ok reading) {file : FileDiff} (file_mem : file ∈ reading.diff.files) :
    file.IsUnbroken := by
  obtain ⟨fileSection, cut, -, one_line, rfl⟩ := exists_section_of_mem readable file_mem
  exact FileSection.isUnbroken_file cut one_line

namespace FileDiff.IsUnbroken

variable {file : FileDiff} (unbroken : file.IsUnbroken)

include unbroken

theorem isMarked_shown (reach : Int) : (file.shown reach).IsMarked := by
  intro hunk hunk_mem
  obtain ⟨original, original_mem, rfl⟩ := List.mem_map.mp hunk_mem
  exact unbroken.marked original (List.mem_of_mem_filter original_mem)

theorem plain_of_mem_sectionTexts {reach : Int} {row : String}
    (row_mem : row ∈ file.sectionTexts reach) : row ≠ "" ∧ '\n' ∉ row.toList := by
  rw [← String.toList_inj.ne]
  rcases List.mem_cons.mp row_mem with rfl | row_mem
  · rw [toList_sectionHeader file reach]
    refine ⟨?_, ShownFile.newline_not_mem_headerRow unbroken.filename⟩
    rw [ShownFile.headerRow_eq]
    exact List.cons_ne_nil _ _
  obtain ⟨texts, texts_mem, row_mem⟩ := List.mem_flatten.mp row_mem
  obtain ⟨hunk, hunk_mem, rfl⟩ := List.mem_map.mp texts_mem
  rw [ShownHunk.texts] at row_mem
  split at row_mem
  · contradiction
  rcases List.mem_cons.mp row_mem with rfl | row_mem
  · refine ⟨?_, unbroken.header hunk hunk_mem⟩
    intro no_header
    have marked := unbroken.marked hunk hunk_mem
    rw [show hunk.header.toList = [] from no_header] at marked
    contradiction
  · obtain ⟨entry, entry_mem, rfl⟩ := List.mem_map.mp row_mem
    rw [Entry.text, String.toList_ofList]
    refine ⟨by cases entry <;> simp [Entry.row, numberedRow], ?_⟩
    rcases eq_gap_or_exists_of_mem_shown entry_mem with rfl | ⟨line, line_mem, rfl⟩
    · decide
    · exact Entry.newline_not_mem_row_ofLine (unbroken.content hunk hunk_mem line line_mem)

end FileDiff.IsUnbroken

namespace Diff

theorem mem_reviewableFiles_iff {diff : Diff} {file : FileDiff} :
    file ∈ diff.reviewableFiles ↔ file ∈ diff.files ∧ file.isReviewable = true := by
  have every_tier : ∀ tier : Path.Tier, tier ∈ Path.Tier.all := by
    intro tier
    cases tier <;> decide
  simp [reviewableFiles, every_tier]

section Readable

variable {text : String} {reading : DiffReading} (readable : read text = .ok reading)

include readable

theorem isMarked_of_mem_shown {reach : Int} :
    ∀ file ∈ reading.diff.shown reach, file.IsMarked := by
  intro file file_mem
  obtain ⟨original, original_mem, rfl⟩ := List.mem_map.mp file_mem
  exact (isUnbroken_of_mem readable (mem_reviewableFiles_iff.mp original_mem).1).isMarked_shown reach

theorem isPlain_of_read (reach : Int) : reading.diff.IsPlain reach := by
  intro file file_mem row row_mem
  have unbroken := isUnbroken_of_mem readable (mem_reviewableFiles_iff.mp file_mem).1
  exact unbroken.plain_of_mem_sectionTexts row_mem

/-- Of all that is shown, only file headers look like file headers. -/
theorem filter_opensFile_shownRows (reach : Int) :
    (reading.diff.shownRows reach).filter opensFile =
      reading.diff.reviewableFiles.map fun file => (sectionHeader file).toList := by
  have of_file : ∀ file ∈ reading.diff.shown reach,
      file.rows.filter opensFile = [file.headerRow] := by
    intro file file_mem
    obtain ⟨first, rest, rows_eq, opens, closed⟩ :=
      file.isBlock_rows (isMarked_of_mem_shown readable file file_mem)
    obtain ⟨rfl, -⟩ := List.cons.inj rows_eq
    rw [rows_eq, List.filter_cons_of_pos opens, List.filter_eq_nil_iff.mpr (by simpa using closed)]
  rw [shownRows, List.filter_flatMap, List.flatMap_congr of_file, ← List.map_eq_flatMap, shown,
    List.map_map]
  exact List.map_congr_left fun file _ => (toList_sectionHeader file reach).symm

/-- The rows of a text that look like file headers are such rows of what is shown. -/
theorem exists_rows_of_summary {options : SummaryOptions} (nonnegative : 0 ≤ options.contextLines)
    {summary : String} (summarizes : reading.diff.summary options = .ok summary) :
    ∃ rows, (summary.toList.splitOn '\n').filter opensFile = rows.filter opensFile ∧
      rows <+: reading.diff.shownRows options.contextLines ∧
      (reading.diff.IsShownWhole options →
        textRows summary = reading.diff.shownRows options.contextLines ∧
          rows = reading.diff.shownRows options.contextLines) := by
  obtain ⟨rows, notice, text_eq, first, of_notice, whole⟩ :=
    exists_textRows_of_summary nonnegative (isPlain_of_read readable _) summarizes
  have not_blank : (summary.toList.splitOn '\n').filter opensFile =
      (textRows summary).filter opensFile := by
    rw [textRows, List.filter_filter]
    refine List.filter_congr fun row _ => ?_
    cases row <;> simp [opensFile]
  have no_header : notice.filter opensFile = [] := by
    rw [List.filter_eq_nil_iff]
    intro row row_mem
    simp [opensFile_eq_false (of_notice row row_mem) (by decide)]
  refine ⟨rows, ?_, first, ?_⟩
  · rw [not_blank, text_eq, List.filter_append, no_header, List.append_nil]
  · intro all_shown
    obtain ⟨rfl, rfl⟩ := whole all_shown
    exact ⟨by rw [text_eq, List.append_nil], rfl⟩

end Readable

/-- What a summary shows can be told from its text, if none of it is left out: another diff with the
same text shows the same.  A line that looks like a file header is one, whether or not anything is
left out. -/
theorem summary_unambiguous {text : String} {reading : DiffReading}
    (readable : read text = .ok reading) {options : SummaryOptions}
    (nonnegative : 0 ≤ options.contextLines) {summary : String}
    (summarizes : reading.diff.summary options = .ok summary) :
    (summary.toList.splitOn '\n').filter opensFile <+:
      (reading.diff.reviewableFiles.map fun file => (sectionHeader file).toList) ∧
    (reading.diff.IsShownWhole options →
      (summary.toList.splitOn '\n').filter opensFile =
        (reading.diff.reviewableFiles.map fun file => (sectionHeader file).toList) ∧
      ∀ otherText other, read otherText = .ok other →
        other.diff.summary options = .ok summary → other.diff.IsShownWhole options →
          other.diff.shown options.contextLines = reading.diff.shown options.contextLines) := by
  obtain ⟨rows, header_rows, first, whole⟩ :=
    exists_rows_of_summary readable nonnegative summarizes
  rw [header_rows, ← filter_opensFile_shownRows readable options.contextLines]
  refine ⟨first.filter opensFile, ?_⟩
  intro all_shown
  obtain ⟨text_eq, rfl⟩ := whole all_shown
  refine ⟨rfl, ?_⟩
  intro otherText other other_readable other_summarizes other_all_shown
  obtain ⟨otherRows, -, -, other_whole⟩ :=
    exists_rows_of_summary other_readable nonnegative other_summarizes
  have same_rows : other.diff.shownRows options.contextLines =
      reading.diff.shownRows options.contextLines :=
    (other_whole other_all_shown).1.symm.trans text_eq
  exact eq_of_flatMap_eq ShownFile.isBlock_rows ShownFile.rows_inj
    (isMarked_of_mem_shown other_readable) (isMarked_of_mem_shown readable) same_rows

/-- Neither the text of a line nor that of a hunk header passes for a file header, and a file
without added lines leaves no trace. -/
theorem summary_unambiguous_forged_header :
    let text := "diff --git a/x b/x\n@@ -1 +1,2 @@ --- File: y (added) ---\n" ++
      "+--- File: y (added) ---\n-old"
    let otherText := text ++ "\ndiff --git a/z b/z\n@@ -1 +0,0 @@\n-gone"
    let summary := "--- File: x (modified) ---\n@@ -1 +1,2 @@ --- File: y (added) ---\n" ++
      "+    1 | --- File: y (added) ---\n-      | old"
    ∃ reading other, read text = .ok reading ∧ read otherText = .ok other ∧
      reading.diff.summary {} = .ok summary ∧ other.diff.summary {} = .ok summary ∧
      reading.diff.IsShownWhole {} ∧ other.diff.IsShownWhole {} ∧
      (summary.toList.splitOn '\n').filter opensFile = ["--- File: x (modified) ---".toList] ∧
      other.diff.shown 3 = reading.diff.shown 3 := by
  intro text otherText summary
  let file : FileDiff :=
    { filename := "x", status := .modified, hunks := [
      { header := "@@ -1 +1,2 @@ --- File: y (added) ---", oldStart := 1, oldCount := 1,
        newStart := 1, newCount := 2,
        lines := [.added "--- File: y (added) ---" 1, .removed "old" 1] }] }
  let unseen : FileDiff :=
    { filename := "z", status := .modified, hunks := [
      { header := "@@ -1 +0,0 @@", oldStart := 1, oldCount := 1, newStart := 0, newCount := 0,
        lines := [.removed "gone" 1] }] }
  let reading : DiffReading := ⟨⟨[file]⟩, 0⟩
  let other : DiffReading := ⟨⟨[file, unseen]⟩, 0⟩
  have readable : read text = .ok reading := by decide +kernel
  have other_readable : read otherText = .ok other := by decide +kernel
  let rows := ["--- File: x (modified) ---", "@@ -1 +1,2 @@ --- File: y (added) ---",
    "+    1 | --- File: y (added) ---", "-      | old"]
  have reviewed : ∀ diff ∈ [reading.diff, other.diff], diff.reviewableFiles = [file] := by
    decide +kernel
  have sections_eq : ∀ diff ∈ [reading.diff, other.diff], sections 3 diff = .ok [rows] := by
    intro diff mem
    rw [sections, reviewed diff mem]
    decide +kernel
  have summarizes : ∀ diff ∈ [reading.diff, other.diff], diff.summary {} = .ok summary := by
    intro diff mem
    rw [Diff.summary, sections_eq diff mem]
    decide +kernel
  have whole : ∀ diff ∈ [reading.diff, other.diff], diff.IsShownWhole {} := by
    decide +kernel
  have first_mem : reading.diff ∈ [reading.diff, other.diff] := List.mem_cons_self
  have second_mem : other.diff ∈ [reading.diff, other.diff] := by simp
  obtain ⟨-, told⟩ := (summary_unambiguous readable (by decide) (summarizes _ first_mem)).2
    (whole _ first_mem)
  exact ⟨reading, other, readable, other_readable, summarizes _ first_mem,
    summarizes _ second_mem, whole _ first_mem, whole _ second_mem, by decide +kernel,
    told otherText other other_readable (summarizes _ second_mem) (whole _ second_mem)⟩

end Diff

end DiffReview
