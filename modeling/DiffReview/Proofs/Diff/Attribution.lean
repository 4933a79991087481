import DiffReview.Proofs.Diff.Reading

/-!
# The file that a row belongs to

A file header starts anew, whatever stands above it.  A row that only looks like one, as where its
paths are quoted, leaves no trace: what stands below goes to the file above.
-/

namespace DiffReview

open Text

/-- The files that rows are read as. -/
def filesOf (rows : List (List Char)) : Except DigitLimitError (List FileDiff) :=
  (rows.foldlM ReadState.read {}).map ReadState.allFiles

theorem Diff.map_diff_read (text : String) :
    (read text).map DiffReading.diff = (filesOf (lines text.toList)).map Diff.mk := by
  rw [read_eq, filesOf, map_map_except, map_map_except, map_map_except]
  rfl

theorem Diff.filesOf_lines_eq_ok_iff {text : String} {files : List FileDiff} :
    filesOf (lines text.toList) = .ok files ↔
      ∃ reading, read text = .ok reading ∧ reading.diff.files = files := by
  rw [read_eq, filesOf]
  cases (lines text.toList).foldlM ReadState.read {} with
  | error error => simp [Except.map]
  | ok state => simp [Except.map, ReadState.seen]

/-- Files that are read with a state at hand are added to those of the state. -/
theorem DiffSections.map_allFiles_foldlM_rows {sections : List FileSection}
    (cut : ∀ fileSection ∈ sections, fileSection.IsCut) (state : ReadState) :
    ((sections.flatMap FileSection.rows).foldlM ReadState.read state).map ReadState.allFiles =
      (sections.mapM FileSection.read).map (state.allFiles ++ ·) := by
  have seen_eq := congrArg (Except.map Prod.fst) (foldlM_rows cut state)
  rw [map_map_except, map_map_except] at seen_eq
  exact seen_eq

/-! ## Rows that leave no trace -/

namespace ReadState

/-- What rows have been read as, apart from the number of those that could not be placed. -/
def placed (state : ReadState) : List FileDiff × Option OpenFile :=
  (state.files, state.current)

theorem map_placed_read {state other : ReadState} (same : state.placed = other.placed)
    (row : List Char) : (state.read row).map placed = (other.read row).map placed := by
  obtain ⟨files, current, skipped⟩ := state
  obtain ⟨otherFiles, otherCurrent, otherSkipped⟩ := other
  obtain ⟨rfl, rfl⟩ := Prod.mk.inj same
  rw [read, read]
  cases FileHeader.ofLine? row with
  | some header => rfl
  | none =>
      cases current with
      | none => rfl
      | some file =>
          simp only [readInFile]
          cases HunkHeader.ofLine? row with
          | some header =>
              simp only
              cases header.numbers <;> rfl
          | none =>
              cases file.hunk with
              | none => rfl
              | some hunk =>
                  simp only
                  cases hunk.push? row <;> rfl

/-- The files read do not depend on how many rows could not be placed before. -/
theorem map_allFiles_foldlM {state other : ReadState} (same : state.placed = other.placed)
    (rows : List (List Char)) :
    (rows.foldlM read state).map allFiles = (rows.foldlM read other).map allFiles := by
  have run_eq := map_foldlM_congr (fun row placed_eq => map_placed_read placed_eq row) same rows
  have files_eq := congrArg (Except.map fun placed : List FileDiff × Option OpenFile =>
    placed.1 ++ (placed.2.map OpenFile.close).toList) run_eq
  rw [map_map_except, map_map_except] at files_eq
  exact files_eq

end ReadState

/-- A row that says nothing, wherever it stands: it is no header, it does not mark the null device,
and it has no sigil. -/
structure IsNoise (row : List Char) : Prop where
  notFile : ¬IsFileHeader row
  notHunk : ¬IsHunkHeader row
  unmarked : FileSection.markedStatus? row = none
  noSigil : LineKind.ofRow? row = none

theorem ReadState.map_placed_read_of_isNoise {row : List Char} (noise : IsNoise row)
    (state : ReadState) : (state.read row).map placed = .ok state.placed := by
  obtain ⟨notFile, notHunk, unmarked, noSigil⟩ := noise
  obtain ⟨files, current, skipped⟩ := state
  cases current with
  | none =>
      rw [read_preface files skipped notFile]
      rfl
  | some file =>
      obtain ⟨file, hunk⟩ := file
      cases hunk with
      | none =>
          rw [read_preamble files file skipped notFile notHunk, unmarked]
          rfl
      | some hunk =>
          have kept : hunk.extend row = hunk := by
            rw [OpenHunk.extend, OpenHunk.push?_eq_map_ofRow?, noSigil]
            rfl
          rw [read_body files file hunk skipped notFile notHunk, kept]
          rfl

/-- Without a row that says nothing, the files are the same. -/
theorem filesOf_append_cons_of_isNoise {row : List Char} (noise : IsNoise row)
    (above below : List (List Char)) :
    filesOf (above ++ row :: below) = filesOf (above ++ below) := by
  rw [filesOf, filesOf, List.foldlM_append, List.foldlM_append]
  cases above.foldlM ReadState.read {} with
  | error error => rfl
  | ok state =>
      have step := ReadState.map_placed_read_of_isNoise noise state
      simp only [bind, Except.bind, List.foldlM_cons]
      cases read_eq : state.read row with
      | error error => simp [read_eq, Except.map] at step
      | ok next =>
          rw [read_eq] at step
          exact ReadState.map_allFiles_foldlM (Except.ok.inj step) below

/-- Without rows that say nothing, the files are the same. -/
theorem filesOf_insert_of_isNoise {inserted : List (List Char)}
    (noise : ∀ row ∈ inserted, IsNoise row) (above below : List (List Char)) :
    filesOf (above ++ inserted ++ below) = filesOf (above ++ below) := by
  induction inserted with
  | nil => rw [List.append_nil]
  | cons row inserted induction =>
      rw [List.forall_mem_cons] at noise
      rw [List.append_assoc, List.cons_append, filesOf_append_cons_of_isNoise noise.1,
        ← List.append_assoc, induction noise.2]

theorem filesOf_append_of_isNoise {below : List (List Char)} (noise : ∀ row ∈ below, IsNoise row)
    (above : List (List Char)) : filesOf (above ++ below) = filesOf above := by
  simpa using filesOf_insert_of_isNoise noise above []

theorem isNoise_nil : IsNoise [] where
  notFile := not_isFileHeader_nil
  notHunk := not_isHunkHeader_nil
  unmarked := by decide
  noSigil := rfl

/-- A row without a sigil says nothing, unless it is a header. -/
theorem isNoise_of_ofRow?_eq_none {row : List Char} (notFile : ¬IsFileHeader row)
    (notHunk : ¬IsHunkHeader row) (noSigil : LineKind.ofRow? row = none) : IsNoise row := by
  have not_marker : ∀ side : Side, ¬side.NamesNothing row := by
    rintro side ⟨letter, blanks, -, -, rfl⟩
    cases side <;> simp [Side.marker, LineKind.ofRow?] at noSigil
  refine ⟨notFile, notHunk, ?_, noSigil⟩
  rw [FileSection.markedStatus?, if_neg (not_marker .old), if_neg (not_marker .new)]

/-- What starts like a file header and is none says nothing. -/
theorem isNoise_of_not_isFileHeader {row : List Char} (git : "diff --git ".toList <+: row)
    (notFile : ¬IsFileHeader row) : IsNoise row := by
  obtain ⟨rest, rfl⟩ := git
  exact isNoise_of_ofRow?_eq_none notFile (not_isHunkHeader_of_head?_ne (by simp)) rfl

/-! ## File headers start anew -/

/-- What stands above a file header and what stands below it are read apart from each other. -/
theorem filesOf_append_cons_of_isFileHeader {row : List Char} (isHeader : IsFileHeader row)
    (above below : List (List Char)) :
    filesOf (above ++ row :: below) =
      (filesOf above).bind fun files => (filesOf (row :: below)).map (files ++ ·) := by
  obtain ⟨⟨preface, sections⟩, rows_eq, preface_plain, cut⟩ :=
    DiffSections.exists_isCutOf (row :: below)
  -- The row itself cannot stand before the first header.
  obtain rfl : preface = [] := by
    cases preface with
    | nil => rfl
    | cons first preface =>
        obtain ⟨rfl, -⟩ := List.cons.inj rows_eq
        exact absurd isHeader (preface_plain row List.mem_cons_self)
  rw [List.nil_append] at rows_eq
  have run := DiffSections.map_allFiles_foldlM_rows cut
  rw [← rows_eq] at run
  rw [filesOf, filesOf, filesOf, run, List.foldlM_append]
  cases above.foldlM ReadState.read {} with
  | error error => rfl
  | ok state =>
      refine (run state).trans ?_
      cases sections.mapM FileSection.read <;> rfl

/-! ## Leaks -/

/-- In each text with this row, no hunk and no line below it is read into a file that is opened
above: the files above have the hunks that they have without all this. -/
def ClosesFiles (row : List Char) : Prop :=
  ∀ (text : String) (reading : DiffReading) (above below : List (List Char)),
    Diff.read text = .ok reading → lines text.toList = above ++ row :: below →
      ∃ files, filesOf above = .ok files ∧
        files.map FileDiff.hunks <+: reading.diff.files.map FileDiff.hunks

theorem closesFiles_of_isFileHeader {row : List Char} (isHeader : IsFileHeader row) :
    ClosesFiles row := by
  intro text reading above below read_ok lines_eq
  have files_eq := Diff.filesOf_lines_eq_ok_iff.mpr ⟨reading, read_ok, rfl⟩
  rw [lines_eq, filesOf_append_cons_of_isFileHeader isHeader] at files_eq
  cases above_eq : filesOf above with
  | error error => simp [above_eq, Except.bind] at files_eq
  | ok files =>
      cases below_eq : filesOf (row :: below) with
      | error error => simp [above_eq, below_eq, Except.map, Except.bind] at files_eq
      | ok more =>
          rw [above_eq, below_eq] at files_eq
          refine ⟨files, rfl, ?_⟩
          rw [← Except.ok.inj files_eq, List.map_append]
          exact List.prefix_append _ _

/-- A row that says nothing closes no file: a line below it still goes to the file above. -/
theorem not_closesFiles_of_isNoise {row : List Char} (one_line : '\n' ∉ row)
    (noise : IsNoise row) : ¬ClosesFiles row := by
  intro closes
  let above := ["diff --git a/x b/x".toList, "@@ -0,0 +1 @@".toList]
  have lines_eq : lines (String.ofList ("diff --git a/x b/x".toList ++ '\n' ::
      ("@@ -0,0 +1 @@".toList ++ '\n' :: ((row ++ ['\r']) ++ '\n' :: "+x".toList)))).toList =
        above ++ row :: ["+x".toList] := by
    have ended : dropReturn (row ++ ['\r']) = row := by simp [dropReturn]
    rw [String.toList_ofList, lines_append_newline (by decide), lines_append_newline (by decide),
      lines_append_newline (by simp [one_line]), ended]
    rfl
  let file : FileDiff :=
    { filename := "x", status := .modified, hunks := [
      { header := "@@ -0,0 +1 @@", oldStart := 0, oldCount := 0, newStart := 1, newCount := 1,
        lines := [.added "x" 1] }] }
  have files_eq : filesOf (above ++ row :: ["+x".toList]) = .ok [file] := by
    rw [filesOf_append_cons_of_isNoise noise]
    rfl
  rw [← lines_eq] at files_eq
  obtain ⟨reading, read_ok, reading_files⟩ := Diff.filesOf_lines_eq_ok_iff.mp files_eq
  obtain ⟨files, above_eq, kept⟩ := closes _ reading above _ read_ok lines_eq
  have above_files : filesOf above = .ok [{ file with hunks := file.hunks.map fun hunk =>
      { hunk with lines := [] } }] := rfl
  obtain rfl := Except.ok.inj (above_files.symm.trans above_eq)
  rw [reading_files] at kept
  revert kept
  decide

/-- Of the rows that start like a file header, those that are one close the files above them. -/
theorem closesFiles_iff_isFileHeader {row : List Char} (one_line : '\n' ∉ row)
    (git : "diff --git ".toList <+: row) : ClosesFiles row ↔ IsFileHeader row := by
  constructor
  · intro closes
    by_contra notFile
    exact not_closesFiles_of_isNoise one_line (isNoise_of_not_isFileHeader git notFile) closes
  · exact closesFiles_of_isFileHeader

theorem closesFiles_renaming :
    let row := "diff --git a/a b.txt b/c.txt".toList
    '\n' ∉ row ∧ "diff --git ".toList <+: row ∧ ClosesFiles row := by
  intro row
  have one_line : '\n' ∉ row := by decide
  have git : "diff --git ".toList <+: row := by decide
  have isHeader : IsFileHeader row :=
    ⟨⟨"a b.txt".toList, "c.txt".toList⟩, FileHeader.ofLine?_eq_some_iff.mp rfl⟩
  exact ⟨one_line, git, (closesFiles_iff_isFileHeader one_line git).mpr isHeader⟩

/-- Where the paths of a header are quoted, the file above also gets the hunks below it, with the
marker rows as lines. -/
theorem not_closesFiles_quoted :
    let row := "diff --git \"a/caf\\303\\251.txt\" \"b/caf\\303\\251.txt\"".toList
    "diff --git ".toList <+: row ∧ ¬ClosesFiles row := by
  intro row
  refine ⟨by decide, ?_⟩
  intro closes
  let first : Hunk :=
    { header := "@@ -1 +1 @@", oldStart := 1, oldCount := 1, newStart := 1, newCount := 1,
      lines := [.removed "a" 1, .added "b" 1] }
  let second : Hunk := { first with lines := [.removed "c" 1, .added "d" 1] }
  let markers : List Line :=
    [.removed "-- \"a/caf\\303\\251.txt\"" 2, .added "++ \"b/caf\\303\\251.txt\"" 2]
  let above := ["diff --git a/x b/x".toList, "--- a/x".toList, "+++ b/x".toList,
    "@@ -1 +1 @@".toList, "-a".toList, "+b".toList]
  let below := ["--- \"a/caf\\303\\251.txt\"".toList, "+++ \"b/caf\\303\\251.txt\"".toList,
    "@@ -1 +1 @@".toList, "-c".toList, "+d".toList]
  let text := String.ofList (layOut (fun _ => .feed) (above ++ row :: below))
  have lines_eq : lines text.toList = above ++ row :: below := by
    have one_line : ∀ part ∈ above ++ row :: below, IsOneLine part := by decide +kernel
    have kept := lines_layOut one_line (by simp) (fun _ => .feed) none
    simpa [text] using kept
  have above_files :
      filesOf above = .ok [{ filename := "x", status := .modified, hunks := [first] }] := rfl
  have all_files : filesOf (lines text.toList) =
      .ok [{
        filename := "x"
        status := .modified
        hunks := [{ first with lines := first.lines ++ markers }, second] }] := by
    rw [lines_eq]
    rfl
  obtain ⟨reading, read_ok, reading_files⟩ := Diff.filesOf_lines_eq_ok_iff.mp all_files
  obtain ⟨files, above_eq, kept⟩ := closes text reading above below read_ok lines_eq
  obtain rfl := Except.ok.inj (above_files.symm.trans above_eq)
  rw [reading_files] at kept
  revert kept
  decide

end DiffReview
