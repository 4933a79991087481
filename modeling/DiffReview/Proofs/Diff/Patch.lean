import DiffReview.Proofs.Diff.Reading
import Mathlib.Data.List.Flatten

/-!
# Patches are read back

A patch shows the hunks of its file again, without the rows that have no sigil.  Below a header for
its file it is a text that can be read, and the same hunks come back, unless carriage returns that
were lone in the first text stand before line feeds in the second.
-/

namespace DiffReview

open Text

/-! ## What a patch shows -/

theorem LineKind.render_line {row : List Char} {kind : LineKind} {content : String}
    (read : ofRow? row = some (kind, content)) (oldNumber newNumber : Nat) :
    (kind.line content oldNumber newNumber).render = String.ofList row := by
  fun_cases ofRow? row with
  | case4 plus minus space => simp [ofRow?] at read
  | _ characters =>
      obtain ⟨rfl, rfl⟩ := Prod.mk.inj (Option.some.inj read)
      simp [line, Line.render, Line.sigil, Line.content]

theorem map_render_numbered (rows : List (List Char)) (oldStart newStart : Nat) :
    (numbered oldStart newStart (rows.filterMap LineKind.ofRow?)).map Line.render =
      (rows.filter LineKind.marks).map String.ofList := by
  induction rows generalizing oldStart newStart with
  | nil => rfl
  | cons row rows induction =>
      cases read : LineKind.ofRow? row with
      | none =>
          have plain : ¬LineKind.marks row := by simp [LineKind.marks, read]
          rw [List.filterMap_cons_none read, List.filter_cons_of_neg plain, induction]
      | some entry =>
          obtain ⟨kind, content⟩ := entry
          have marked : LineKind.marks row := by simp [LineKind.marks, read]
          rw [List.filterMap_cons_some read, List.filter_cons_of_pos marked, numbered_cons,
            List.map_cons, induction, LineKind.render_line read, List.map_cons]

namespace HunkSection

/-- The section without the rows that have no sigil. -/
def compact (hunk : HunkSection) : HunkSection :=
  { hunk with body := hunk.body.filter LineKind.marks }

theorem hunk_compact (hunk : HunkSection) : hunk.compact.hunk = hunk.hunk := by
  have entries_eq : hunk.compact.entries = hunk.entries := by
    rw [entries, compact, List.filterMap_filter, entries]
    congr 1
    funext row
    cases read : LineKind.ofRow? row with
    | none => simp [LineKind.marks, read]
    | some entry => simp [LineKind.marks, read]
  rw [HunkSection.hunk, entries_eq]
  rfl

theorem rows_compact_sublist (hunk : HunkSection) : hunk.compact.rows.Sublist hunk.rows :=
  List.filter_sublist.cons_cons hunk.row

theorem IsCut.compact {hunk : HunkSection} (cut : hunk.IsCut) : hunk.compact.IsCut :=
  ⟨cut.heads, fun row row_mem => cut.body row (List.mem_of_mem_filter row_mem)⟩

theorem toList_render_hunk (hunk : HunkSection) :
    hunk.hunk.render.toList = joinLines hunk.compact.rows := by
  rw [Hunk.render, String.toList_intercalate, joinLines]
  congr 1
  simp only [HunkSection.hunk, entries, map_render_numbered]
  simp [compact, rows]

end HunkSection

namespace FileSection

/-- The rows that the patch shows. -/
def shownRows (file : FileSection) : List (List Char) :=
  file.hunks.flatMap fun hunk => hunk.compact.rows

theorem shownRows_sublist (file : FileSection) : file.shownRows.Sublist file.below := by
  have hunk_rows : file.shownRows.Sublist (file.hunks.flatMap HunkSection.rows) := by
    rw [shownRows]
    induction file.hunks with
    | nil => exact .slnil
    | cons hunk hunks induction =>
        rw [List.flatMap_cons, List.flatMap_cons]
        exact hunk.rows_compact_sublist.append induction
  exact hunk_rows.trans (List.sublist_append_right file.preamble _)

theorem toList_patch_file (file : FileSection) :
    file.file.patch.toList = joinLines file.shownRows := by
  have nonempty : ∀ block ∈ file.hunks.map fun hunk => hunk.compact.rows, block ≠ [] := by
    intro block block_mem
    obtain ⟨hunk, -, rfl⟩ := List.mem_map.mp block_mem
    exact List.cons_ne_nil _ _
  have flat : (file.hunks.map fun hunk => hunk.compact.rows).flatten = file.shownRows := by
    rw [shownRows, List.flatMap_def]
  rw [← flat, ← joinLines_map_joinLines nonempty, FileDiff.patch, String.toList_intercalate,
    joinLines]
  congr 1
  simp [FileSection.file, HunkSection.toList_render_hunk]

end FileSection

/-- The patch of a file as a diff of its own: below a header that repeats the path in the new
revision where there is no other one in the old revision. -/
def FileDiff.asDiff (file : FileDiff) : String :=
  "diff --git a/" ++ (present? file.oldFilename).getD file.filename ++ " b/" ++ file.filename ++
    "\n" ++ file.patch

namespace FileSection

theorem toList_asDiff {file : FileSection} (cut : file.IsCut) :
    file.file.asDiff.toList = file.row ++ '\n' :: joinLines file.shownRows := by
  obtain ⟨⟨old_ne_nil, -, row_eq⟩, -⟩ := cut.heads
  have old_eq : ((present? file.file.oldFilename).getD file.file.filename).toList =
      file.header.oldPath := by
    by_cases same : file.header.oldPath = file.header.newPath
    · simp [FileSection.file, same, present?]
    · simp [FileSection.file, same, present?, Option.filter_some, old_ne_nil]
  change ("diff --git a/" ++ (present? file.file.oldFilename).getD file.file.filename ++ " b/" ++
    file.file.filename ++ "\n" ++ file.file.patch).toList = _
  simp only [String.toList_append, old_eq, toList_patch_file]
  simp [row_eq, FileSection.file]

section Reread

variable {file : FileSection} (cut : file.IsCut) (one_line : ∀ row ∈ file.rows, '\n' ∉ row)

include one_line in
theorem one_line_shownRows : ∀ row ∈ file.shownRows, '\n' ∉ row := by
  intro row row_mem
  exact one_line row (List.mem_cons_of_mem file.row (file.shownRows_sublist.subset row_mem))

include cut one_line in
theorem lines_asDiff :
    lines file.file.asDiff.toList =
      dropReturn file.row :: lines (joinLines file.shownRows) := by
  rw [toList_asDiff cut, lines_append_newline (one_line file.row List.mem_cons_self)]

include cut one_line in
/-- Each row that is read again is the first one, or empty, or was shown, perhaps with a carriage
return at its end. -/
theorem mem_lines_asDiff {row : List Char} (row_mem : row ∈ lines file.file.asDiff.toList) :
    row = dropReturn file.row ∨ row = [] ∨ ∃ ending, row ++ ending ∈ file.shownRows := by
  rw [lines_asDiff cut one_line] at row_mem
  rcases List.mem_cons.mp row_mem with is_first | in_patch
  · exact .inl is_first
  · exact .inr (exists_mem_of_mem_lines_joinLines (one_line_shownRows one_line) in_patch)

include cut in
theorem fits_of_heads (fits : file.Fits) {row : List Char} (row_mem : row ∈ file.shownRows)
    {header : HunkHeader} (heads : header.Heads row) : header.old.Fits ∧ header.new.Fits := by
  obtain ⟨hunk, hunk_mem, row_mem⟩ := List.mem_flatMap.mp row_mem
  have hunk_cut := cut.hunks hunk hunk_mem
  rcases List.mem_cons.mp row_mem with rfl | in_body
  · obtain rfl := heads.unique hunk_cut.heads
    exact fits hunk hunk_mem
  · exact absurd ⟨header, heads⟩ (hunk_cut.compact.body row in_body)

include cut one_line in
/-- Each hunk header that is read again stood in the file, perhaps with more characters. -/
theorem fits_of_isCutOf (fits : file.Fits) {sections : DiffSections}
    (again : sections.IsCutOf (lines file.file.asDiff.toList)) : sections.Fits := by
  intro copy copy_mem hunk hunk_mem
  have heads := ((again.files copy copy_mem).hunks hunk hunk_mem).heads
  have row_mem := again.mem_of_mem_rows copy_mem (row_mem_rows hunk_mem)
  rcases mem_lines_asDiff cut one_line row_mem with is_first | empty | ⟨ending, shown⟩
  · obtain ⟨ending, row_eq⟩ := exists_eq_dropReturn_append file.row
    rw [← is_first] at row_eq
    have still_heads := heads.append ending
    rw [← row_eq] at still_heads
    exact absurd ⟨_, still_heads⟩ (not_isHunkHeader_of_isFileHeader ⟨_, cut.heads⟩)
  · rw [empty] at heads
    exact absurd ⟨_, heads⟩ not_isHunkHeader_nil
  · exact fits_of_heads cut fits shown (heads.append ending)

include cut one_line in
/-- The patch can be read again, whatever its cut is. -/
theorem read_eq_ok_of_isCutOf (fits : file.Fits) {sections : DiffSections}
    (again : sections.IsCutOf (lines file.file.asDiff.toList)) :
    Diff.read file.file.asDiff = .ok sections.reading := by
  rw [Diff.read_eq_read_sections again, DiffSections.read_eq_ok_iff]
  exact ⟨fits_of_isCutOf cut one_line fits again, rfl⟩

/-- The section of the file in the diff of its patch. -/
def reread (file : FileSection) : FileSection where
  row := dropReturn file.row
  header := ⟨file.header.oldPath, dropReturn file.header.newPath⟩
  preamble := if file.hunks.isEmpty then [[]] else []
  hunks := file.hunks.map HunkSection.compact

include cut in
/-- The row and the new path of a file header lose the same ending. -/
theorem exists_heads_append : ∃ ending,
    FileHeader.Heads ⟨file.header.oldPath, dropReturn file.header.newPath ++ ending⟩
      (dropReturn file.row ++ ending) := by
  obtain ⟨ending, path_eq⟩ := exists_eq_dropReturn_append file.header.newPath
  have spelled := cut.heads.spelled
  have row_eq : file.row = dropReturn file.row ++ ending := by
    rw [spelled.line_eq, dropReturn_append spelled.new_ne_nil]
    simp [← path_eq]
  refine ⟨ending, ?_⟩
  rw [← path_eq, ← row_eq]
  exact cut.heads

include cut in
theorem heads_reread (path : file.header.newPath ≠ ['\r']) :
    file.reread.header.Heads file.reread.row := by
  obtain ⟨ending, heads⟩ := exists_heads_append cut
  refine heads.of_append ?_
  rwa [ne_eq, dropReturn_eq_nil_iff cut.heads.spelled.new_ne_nil]

include cut in
theorem not_isFileHeader_dropReturn (path : file.header.newPath = ['\r']) :
    ¬IsFileHeader (dropReturn file.row) := by
  obtain ⟨ending, heads⟩ := exists_heads_append cut
  rw [(dropReturn_eq_nil_iff cut.heads.spelled.new_ne_nil).mpr path, List.nil_append] at heads
  exact not_isFileHeader_of_heads_append heads

theorem flatMap_rows_reread (file : FileSection) :
    file.reread.hunks.flatMap HunkSection.rows = file.shownRows := by
  rw [reread, List.flatMap_map, shownRows]

include one_line in
/-- Without hunks, the patch is one empty row. -/
theorem below_reread (absent : ¬['\r', '\n'] <:+: joinLines file.shownRows) :
    file.reread.below = lines (joinLines file.shownRows) := by
  rw [below, flatMap_rows_reread]
  cases hunks_eq : file.hunks with
  | nil => simp [reread, shownRows, hunks_eq, joinLines, lines, unifyNewlines]
  | cons hunk hunks =>
      have nonempty : file.shownRows ≠ [] := by
        simp [shownRows, hunks_eq, HunkSection.rows]
      rw [lines_joinLines (one_line_shownRows one_line) nonempty absent]
      simp [reread, hunks_eq]

include cut one_line in
theorem isCutOf_reread (absent : ¬['\r', '\n'] <:+: joinLines file.shownRows)
    (path : file.header.newPath ≠ ['\r']) :
    DiffSections.IsCutOf ⟨[], [file.reread]⟩ (lines file.file.asDiff.toList) := by
  have preamble_empty : ∀ row ∈ file.reread.preamble, row = [] := by
    intro row row_mem
    rw [reread] at row_mem
    split at row_mem
    · exact List.mem_singleton.mp row_mem
    · exact absurd row_mem List.not_mem_nil
  refine ⟨?_, by simp, ?_⟩
  · rw [lines_asDiff cut one_line, ← below_reread one_line absent]
    simp [rows, reread]
  · rw [List.forall_mem_singleton]
    refine ⟨heads_reread cut path, ?_, ?_, ?_⟩
    · rw [below, flatMap_rows_reread, List.forall_mem_append]
      refine ⟨?_, fun row row_mem => cut.below row (file.shownRows_sublist.subset row_mem)⟩
      intro row row_mem
      rw [preamble_empty row row_mem]
      exact not_isFileHeader_nil
    · intro row row_mem
      rw [preamble_empty row row_mem]
      exact not_isHunkHeader_nil
    · intro hunk hunk_mem
      obtain ⟨original, original_mem, rfl⟩ := List.mem_map.mp hunk_mem
      exact (cut.hunks original original_mem).compact

theorem hunks_file_reread (file : FileSection) : file.reread.file.hunks = file.file.hunks := by
  simp [FileSection.file, reread, Function.comp_def, HunkSection.hunk_compact]

theorem header_reread (clean : file.header.newPath.getLast? ≠ some '\r') :
    file.reread.header = file.header := by
  rw [reread, dropReturn_eq_self clean]

variable {sections : DiffSections}
  (again : sections.IsCutOf (lines file.file.asDiff.toList))
  {copy : FileSection} (files_eq : sections.files = [copy])

include cut one_line again files_eq in
/-- Carriage returns that are lost on the way are missing in the copy. -/
theorem not_infix_of_isCutOf (hunks_eq : copy.file.hunks = file.file.hunks) :
    ¬['\r', '\n'] <:+: joinLines file.shownRows := by
  intro present
  have rows_eq := again.rows_eq
  rw [files_eq, lines_asDiff cut one_line, List.flatMap_singleton, rows] at rows_eq
  have below_sublist : copy.below.Sublist (lines (joinLines file.shownRows)) := by
    -- The copy may start at the first row or later; its rows below lie behind the first one.
    generalize sections.preface = preface at rows_eq
    cases preface with
    | nil => rw [(List.cons.inj rows_eq).2]
    | cons first preface =>
        rw [(List.cons.inj rows_eq).2]
        exact (List.sublist_cons_self copy.row copy.below).trans (List.sublist_append_right _ _)
  have patch_eq : joinLines copy.shownRows = joinLines file.shownRows := by
    rw [← toList_patch_file, ← toList_patch_file, FileDiff.patch, FileDiff.patch, hunks_eq]
  have fewer : (joinLines file.shownRows).count '\r' < (joinLines file.shownRows).count '\r' :=
    calc (joinLines file.shownRows).count '\r'
      _ = copy.shownRows.flatten.count '\r' := by
          rw [← patch_eq, count_joinLines (by decide)]
      _ ≤ (lines (joinLines file.shownRows)).flatten.count '\r' :=
          (copy.shownRows_sublist.trans below_sublist).flatten.count_le '\r'
      _ = (unifyNewlines (joinLines file.shownRows)).count '\r' := by
          rw [← count_joinLines (by decide), joinLines_lines]
      _ < (joinLines file.shownRows).count '\r' := count_unifyNewlines_lt present
  exact Nat.lt_irrefl _ fewer

include cut one_line again files_eq in
/-- Without its header, no file is read again. -/
theorem path_ne_of_isCutOf : file.header.newPath ≠ ['\r'] := by
  intro path
  have copy_mem : copy ∈ sections.files := by simp [files_eq]
  have isHeader : IsFileHeader copy.row := ⟨_, (again.files copy copy_mem).heads⟩
  have row_mem := again.mem_of_mem_rows copy_mem List.mem_cons_self
  rcases mem_lines_asDiff cut one_line row_mem with is_first | empty | ⟨ending, shown⟩
  · rw [is_first] at isHeader
    exact not_isFileHeader_dropReturn cut path isHeader
  · rw [empty] at isHeader
    exact not_isFileHeader_nil isHeader
  · exact cut.below _ (file.shownRows_sublist.subset shown) (isHeader.append ending)

end Reread

end FileSection

/-! ## Reading a patch again -/

namespace Diff

/-- Each file that is read comes from a section of the text that fits. -/
theorem exists_section_of_mem {text : String} {reading : DiffReading}
    (read_ok : read text = .ok reading) {file : FileDiff} (file_mem : file ∈ reading.diff.files) :
    ∃ fileSection : FileSection, fileSection.IsCut ∧ fileSection.Fits ∧
      (∀ row ∈ fileSection.rows, '\n' ∉ row) ∧ file = fileSection.file := by
  obtain ⟨sections, cut⟩ := DiffSections.exists_isCutOf (lines text.toList)
  rw [read_eq_read_sections cut, DiffSections.read_eq_ok_iff] at read_ok
  obtain ⟨fits, rfl⟩ := read_ok
  obtain ⟨fileSection, section_mem, rfl⟩ := List.mem_map.mp file_mem
  refine ⟨fileSection, cut.files _ section_mem, fits _ section_mem, ?_, rfl⟩
  intro row row_mem
  exact newline_not_mem_of_mem_lines (cut.mem_of_mem_rows section_mem row_mem)

/-- The patch of a file can be read again.  The same hunks come back exactly if no carriage return
stands before a line feed of the patch and the path is not a carriage return alone; and so do the
paths, if the new one does not end with a carriage return. -/
theorem read_asDiff {text : String} {reading : DiffReading} (read_ok : read text = .ok reading)
    {file : FileDiff} (file_mem : file ∈ reading.diff.files) :
    ∃ again : DiffReading, read file.asDiff = .ok again ∧
      ((∃ copy, again.diff.files = [copy] ∧ copy.hunks = file.hunks) ↔
        ¬['\r', '\n'] <:+: file.patch.toList ∧ file.filename ≠ "\r") ∧
      (¬['\r', '\n'] <:+: file.patch.toList → file.filename.toList.getLast? ≠ some '\r' →
        ∃ copy, again.diff.files = [copy] ∧ copy.hunks = file.hunks ∧
          copy.filename = file.filename ∧ copy.oldFilename = file.oldFilename) := by
  obtain ⟨fileSection, cut, fits, one_line, rfl⟩ := exists_section_of_mem read_ok file_mem
  obtain ⟨sections, again⟩ := DiffSections.exists_isCutOf (lines fileSection.file.asDiff.toList)
  have again_ok := fileSection.read_eq_ok_of_isCutOf cut one_line fits again
  have rereads : ¬['\r', '\n'] <:+: joinLines fileSection.shownRows →
      fileSection.header.newPath ≠ ['\r'] →
        sections.reading.diff.files = [fileSection.reread.file] := by
    intro absent path
    have once := fileSection.read_eq_ok_of_isCutOf cut one_line fits
      (FileSection.isCutOf_reread cut one_line absent path)
    rw [Except.ok.inj (again_ok.symm.trans once)]
    rfl
  have path_iff : fileSection.file.filename ≠ "\r" ↔ fileSection.header.newPath ≠ ['\r'] := by
    rw [ne_eq, ← String.toList_inj, FileSection.file, String.toList_ofList]
    rfl
  rw [FileSection.toList_patch_file, path_iff]
  refine ⟨sections.reading, again_ok, ⟨?_, ?_⟩, ?_⟩
  · rintro ⟨copy, files_eq, hunks_eq⟩
    obtain ⟨copySection, sections_eq, rfl⟩ := List.map_eq_singleton_iff.mp files_eq
    exact ⟨FileSection.not_infix_of_isCutOf cut one_line again sections_eq hunks_eq,
      FileSection.path_ne_of_isCutOf cut one_line again sections_eq⟩
  · rintro ⟨absent, path⟩
    exact ⟨_, rereads absent path, fileSection.hunks_file_reread⟩
  · intro absent clean
    rw [FileSection.file, String.toList_ofList] at clean
    have path : fileSection.header.newPath ≠ ['\r'] := by
      intro path
      simp [path] at clean
    have header_eq := FileSection.header_reread clean
    refine ⟨_, rereads absent path, fileSection.hunks_file_reread, ?_, ?_⟩
    · rw [FileSection.file, header_eq, FileSection.file]
    · rw [FileSection.file, header_eq, FileSection.file]

theorem read_asDiff_renamed :
    let file : FileDiff :=
      { filename := "y", status := .renamed, oldFilename := some "x", hunks := [
        { header := "@@ -3 +3,2 @@", oldStart := 3, oldCount := 1, newStart := 3, newCount := 2,
          lines := [.removed "a" 3, .added "b" 3] }] }
    read "diff --git a/x b/y\n@@ -3 +3,2 @@\n-a\n\\\n+b" = .ok ⟨⟨[file]⟩, 1⟩ ∧
      ∃ again copy, read file.asDiff = .ok again ∧ again.diff.files = [copy] ∧
        copy.hunks = file.hunks ∧ copy.filename = "y" ∧ copy.oldFilename = some "x" := by
  intro file
  have read_ok : read "diff --git a/x b/y\n@@ -3 +3,2 @@\n-a\n\\\n+b" = .ok ⟨⟨[file]⟩, 1⟩ := rfl
  obtain ⟨again, again_ok, -, comes_back⟩ := read_asDiff read_ok (List.mem_singleton_self _)
  have absent : ¬['\r', '\n'] <:+: file.patch.toList := by
    simp [file, FileDiff.patch, Hunk.render, Line.render, Line.sigil, Line.content]
    decide
  obtain ⟨copy, copy_back⟩ := comes_back absent (by decide)
  exact ⟨read_ok, again, copy, again_ok, copy_back⟩

end Diff

end DiffReview
