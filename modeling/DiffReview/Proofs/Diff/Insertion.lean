import DiffReview.Proofs.Diff.Attribution
import DiffReview.Proofs.Findings

/-!
# Rows put into a hunk

A row without a sigil, put into a hunk, is not noticed at all.  A row with the sigil of a removed
line is noticed only by what counts removed lines or numbers them: the added lines and their numbers
stay, and with them all that is found in them.  The second part compares two runs of the reader by
their added lines, which is all that a step hands on about them.
-/

namespace DiffReview

open Text

/-! ## States by their added lines -/

theorem Hunk.addedOnly_addedOnly (hunk : Hunk) : hunk.addedOnly.addedOnly = hunk.addedOnly := by
  simp [addedOnly]

theorem FileDiff.addedOnly_addedOnly (file : FileDiff) :
    file.addedOnly.addedOnly = file.addedOnly := by
  simp [addedOnly, Function.comp_def, Hunk.addedOnly_addedOnly]

theorem LineKind.isAdded_line (kind : LineKind) (content : String) (oldNumber newNumber : Nat) :
    (kind.line content oldNumber newNumber).isAdded = decide (kind = .added) := by
  cases kind <;> rfl

/-- The hunk with its added lines alone, and without its place in the old revision. -/
def OpenHunk.addedOnly (hunk : OpenHunk) : OpenHunk :=
  { hunk with reversed := hunk.reversed.filter Line.isAdded, nextOld := 0 }

/-- The file with its added lines alone. -/
def OpenFile.addedOnly (file : OpenFile) : OpenFile where
  file := file.file.addedOnly
  hunk := file.hunk.map OpenHunk.addedOnly

namespace OpenHunk

theorem close_addedOnly (hunk : OpenHunk) : hunk.addedOnly.close = hunk.close.addedOnly := by
  simp [close, addedOnly, Hunk.addedOnly]

theorem addedOnly_addedOnly (hunk : OpenHunk) : hunk.addedOnly.addedOnly = hunk.addedOnly := by
  simp [addedOnly]

theorem addedOnly_extend (hunk : OpenHunk) (row : List Char) :
    (hunk.extend row).addedOnly = (hunk.addedOnly.extend row).addedOnly := by
  rw [extend, extend, push?_eq_map_ofRow?, push?_eq_map_ofRow?]
  cases LineKind.ofRow? row with
  | none => exact (addedOnly_addedOnly hunk).symm
  | some entry =>
      obtain ⟨kind, content⟩ := entry
      by_cases isAdded : kind = .added
      · subst isAdded
        have line_added (number : Nat) : (Line.added content number).isAdded = true := rfl
        simp [addedOnly, LineKind.line, line_added]
      · simp [addedOnly, LineKind.isAdded_line, isAdded]

/-- A removed line changes nothing but the place in the old revision. -/
theorem addedOnly_extend_removed (hunk : OpenHunk) {row : List Char}
    (removed : row.head? = some '-') : (hunk.extend row).addedOnly = hunk.addedOnly := by
  obtain ⟨content, rfl⟩ := List.head?_eq_some_iff.mp removed
  have not_added : (Line.removed (String.ofList content) hunk.nextOld).isAdded = false := rfl
  simp [extend, push?, addedOnly, not_added]

end OpenHunk

namespace OpenFile

theorem close_addedOnly (file : OpenFile) : file.addedOnly.close = file.close.addedOnly := by
  obtain ⟨file, hunk⟩ := file
  cases hunk <;> simp [close, addedOnly, FileDiff.addedOnly, OpenHunk.close_addedOnly]

theorem addedOnly_addedOnly (file : OpenFile) : file.addedOnly.addedOnly = file.addedOnly := by
  simp [addedOnly, FileDiff.addedOnly_addedOnly, Function.comp_def, OpenHunk.addedOnly_addedOnly]

theorem addedOnly_openHunk (file : OpenFile) (row : List Char) (range : HunkRange) :
    (file.openHunk row range).addedOnly = (file.addedOnly.openHunk row range).addedOnly := by
  have closed : file.addedOnly.close.addedOnly = file.close.addedOnly := by
    rw [close_addedOnly, FileDiff.addedOnly_addedOnly]
  change OpenFile.mk file.close.addedOnly _ = OpenFile.mk file.addedOnly.close.addedOnly _
  rw [closed]
  rfl

end OpenFile

namespace ReadState

/-- The state with its added lines alone. -/
def addedOnly (state : ReadState) : ReadState where
  files := state.files.map FileDiff.addedOnly
  current := state.current.map OpenFile.addedOnly

theorem allFiles_addedOnly (state : ReadState) :
    state.addedOnly.allFiles = state.allFiles.map FileDiff.addedOnly := by
  obtain ⟨files, current, skipped⟩ := state
  cases current <;> simp [allFiles, addedOnly, OpenFile.close_addedOnly]

theorem addedOnly_openFile (state : ReadState) (header : FileHeader) :
    (state.openFile header).addedOnly = (state.addedOnly.openFile header).addedOnly := by
  have files_eq := allFiles_addedOnly state
  simp only [openFile, addedOnly] at files_eq ⊢
  simp [files_eq, FileDiff.addedOnly_addedOnly]

/-- Of what has been read before, a step hands on the added lines alone. -/
theorem map_addedOnly_read (state : ReadState) (row : List Char) :
    (state.read row).map addedOnly = (state.addedOnly.read row).map addedOnly := by
  by_cases isFile : IsFileHeader row
  · obtain ⟨header, heads⟩ := isFile
    rw [read_of_heads _ heads, read_of_heads _ heads]
    exact congrArg Except.ok (addedOnly_openFile state header)
  obtain ⟨files, current, skipped⟩ := state
  have again : (files.map FileDiff.addedOnly).map FileDiff.addedOnly =
      files.map FileDiff.addedOnly := by
    simp [FileDiff.addedOnly_addedOnly]
  cases current with
  | none =>
      change (read ⟨files, none, skipped⟩ row).map addedOnly =
        (read ⟨files.map FileDiff.addedOnly, none, 0⟩ row).map addedOnly
      rw [read_preface _ _ isFile, read_preface _ _ isFile]
      simp [Except.map, addedOnly, again]
  | some file =>
      change (read ⟨files, some file, skipped⟩ row).map addedOnly =
        (read ⟨files.map FileDiff.addedOnly, some file.addedOnly, 0⟩ row).map addedOnly
      by_cases isHunk : IsHunkHeader row
      · obtain ⟨header, heads⟩ := isHunk
        rw [read_hunkHeader _ _ _ isFile heads, read_hunkHeader _ _ _ isFile heads]
        cases header.numbers with
        | error error => rfl
        | ok range => simp [Except.map, addedOnly, again, ← OpenFile.addedOnly_openHunk]
      · obtain ⟨file, hunk⟩ := file
        cases hunk with
        | none =>
            change _ = (read ⟨_, some ⟨file.addedOnly, none⟩, 0⟩ row).map addedOnly
            rw [read_preamble _ _ _ isFile isHunk, read_preamble _ _ _ isFile isHunk]
            simp [Except.map, addedOnly, again, OpenFile.addedOnly, FileDiff.addedOnly,
              Hunk.addedOnly_addedOnly]
        | some hunk =>
            change _ = (read ⟨_, some ⟨file.addedOnly, some hunk.addedOnly⟩, 0⟩ row).map addedOnly
            rw [read_body _ _ _ _ isFile isHunk, read_body _ _ _ _ isFile isHunk]
            simp [Except.map, addedOnly, again, OpenFile.addedOnly, FileDiff.addedOnly_addedOnly,
              ← OpenHunk.addedOnly_extend]

/-- Of what has been read before, a run hands on the added lines alone. -/
theorem map_addedOnly_foldlM {state other : ReadState}
    (same : state.addedOnly = other.addedOnly) (rows : List (List Char)) :
    (rows.foldlM read state).map addedOnly = (rows.foldlM read other).map addedOnly := by
  refine map_foldlM_congr ?_ same rows
  intro state other row same
  rw [map_addedOnly_read, same, ← map_addedOnly_read]

/-! ## States within a hunk -/

/-- No line has to be read as part of a preamble: if a file is open, so is a hunk of it. -/
def IsPastPreamble (state : ReadState) : Prop :=
  ∀ file ∈ state.current, file.hunk.isSome = true

theorem IsPastPreamble.of_addedOnly_eq {state other : ReadState} (past : state.IsPastPreamble)
    (same : other.addedOnly = state.addedOnly) : other.IsPastPreamble := by
  intro file file_mem
  have current_eq := congrArg ReadState.current same
  simp only [addedOnly] at current_eq
  rw [Option.mem_def.mp file_mem, Option.map_some] at current_eq
  obtain ⟨before, before_mem, before_eq⟩ := Option.map_eq_some_iff.mp current_eq.symm
  have hunk_eq := congrArg (fun file => file.hunk.isSome) before_eq
  simpa [OpenFile.addedOnly, past before before_mem] using hunk_eq.symm

theorem isPastPreamble_of_read_hunkHeader {state next : ReadState} {row : List Char}
    (isHunk : IsHunkHeader row) (read_eq : state.read row = .ok next) : next.IsPastPreamble := by
  have notFile : ¬IsFileHeader row := fun isFile => not_isHunkHeader_of_isFileHeader isFile isHunk
  obtain ⟨files, current, skipped⟩ := state
  cases current with
  | none =>
      rw [read_preface files skipped notFile] at read_eq
      obtain rfl := Except.ok.inj read_eq
      simp [IsPastPreamble]
  | some file =>
      obtain ⟨header, heads⟩ := isHunk
      rw [read_hunkHeader files file skipped notFile heads] at read_eq
      cases numbers_eq : header.numbers with
      | error error => simp [numbers_eq, Except.map] at read_eq
      | ok range =>
          rw [numbers_eq] at read_eq
          obtain rfl := Except.ok.inj read_eq
          simp [IsPastPreamble, OpenFile.openHunk]

theorem IsPastPreamble.of_read {state next : ReadState} (past : state.IsPastPreamble)
    {row : List Char} (notFile : ¬IsFileHeader row) (read_eq : state.read row = .ok next) :
    next.IsPastPreamble := by
  by_cases isHunk : IsHunkHeader row
  · exact isPastPreamble_of_read_hunkHeader isHunk read_eq
  obtain ⟨files, current, skipped⟩ := state
  cases current with
  | none =>
      rw [read_preface files skipped notFile] at read_eq
      obtain rfl := Except.ok.inj read_eq
      simp [IsPastPreamble]
  | some file =>
      obtain ⟨file, hunk⟩ := file
      obtain ⟨hunk, rfl⟩ := Option.isSome_iff_exists.mp (past _ rfl)
      rw [read_body files file hunk skipped notFile isHunk] at read_eq
      obtain rfl := Except.ok.inj read_eq
      simp [IsPastPreamble]

theorem IsPastPreamble.of_foldlM {state next : ReadState} (past : state.IsPastPreamble)
    {rows : List (List Char)} (notFile : ∀ row ∈ rows, ¬IsFileHeader row)
    (run_eq : rows.foldlM read state = .ok next) : next.IsPastPreamble := by
  induction rows generalizing state with
  | nil =>
      obtain rfl := Except.ok.inj run_eq
      exact past
  | cons row rows induction =>
      rw [List.forall_mem_cons] at notFile
      rw [List.foldlM_cons, bind_eq_ok_iff] at run_eq
      obtain ⟨between, read_eq, run_eq⟩ := run_eq
      exact induction (past.of_read notFile.1 read_eq) notFile.2 run_eq

/-- Past the preamble, a removed line leaves the added ones as they were. -/
theorem exists_read_of_removed {state : ReadState} (past : state.IsPastPreamble)
    {row : List Char} (removed : row.head? = some '-') :
    ∃ next, state.read row = .ok next ∧ next.addedOnly = state.addedOnly := by
  have notFile : ¬IsFileHeader row := not_isFileHeader_of_head?_ne (by simp [removed])
  have notHunk : ¬IsHunkHeader row := not_isHunkHeader_of_head?_ne (by simp [removed])
  obtain ⟨files, current, skipped⟩ := state
  cases current with
  | none => exact ⟨_, read_preface files skipped notFile, rfl⟩
  | some file =>
      obtain ⟨file, hunk⟩ := file
      obtain ⟨hunk, rfl⟩ := Option.isSome_iff_exists.mp (past _ rfl)
      refine ⟨_, read_body files file hunk skipped notFile notHunk, ?_⟩
      simp [addedOnly, OpenFile.addedOnly, OpenHunk.addedOnly_extend_removed hunk removed]

/-- Past the preamble, removed lines leave the added ones as they were. -/
theorem exists_foldlM_of_removed {state : ReadState} (past : state.IsPastPreamble)
    {rows : List (List Char)} (removed : ∀ row ∈ rows, row.head? = some '-') :
    ∃ next, rows.foldlM read state = .ok next ∧ next.addedOnly = state.addedOnly := by
  induction rows generalizing state with
  | nil => exact ⟨state, rfl, rfl⟩
  | cons row rows induction =>
      rw [List.forall_mem_cons] at removed
      obtain ⟨between, read_eq, between_same⟩ := exists_read_of_removed past removed.1
      obtain ⟨next, run_eq, next_same⟩ :=
        induction (past.of_addedOnly_eq between_same) removed.2
      refine ⟨next, ?_, next_same.trans between_same⟩
      rw [List.foldlM_cons, read_eq]
      exact run_eq

end ReadState

/-! ## Rows between others -/

/-- The rows end within a hunk: below a hunk header, with no file header in between. -/
def EndsInHunk (above : List (List Char)) : Prop :=
  ∃ before header between, above = before ++ header :: between ∧ IsHunkHeader header ∧
    ∀ row ∈ between, ¬IsFileHeader row

theorem EndsInHunk.isPastPreamble {above : List (List Char)} (ends : EndsInHunk above)
    {state : ReadState} (run_eq : above.foldlM ReadState.read {} = .ok state) :
    state.IsPastPreamble := by
  obtain ⟨before, header, between, rfl, isHunk, notFile⟩ := ends
  rw [List.foldlM_append, bind_eq_ok_iff] at run_eq
  obtain ⟨first, -, run_eq⟩ := run_eq
  rw [List.foldlM_cons, bind_eq_ok_iff] at run_eq
  obtain ⟨opened, read_eq, run_eq⟩ := run_eq
  exact (ReadState.isPastPreamble_of_read_hunkHeader isHunk read_eq).of_foldlM notFile run_eq

/-- Removed lines that are put into a hunk leave the added lines of all files as they were. -/
theorem map_addedOnly_filesOf_insert {above inserted : List (List Char)}
    (ends : EndsInHunk above) (removed : ∀ row ∈ inserted, row.head? = some '-')
    (below : List (List Char)) :
    (filesOf (above ++ inserted ++ below)).map (List.map FileDiff.addedOnly) =
      (filesOf (above ++ below)).map (List.map FileDiff.addedOnly) := by
  have by_view (run : Except DigitLimitError ReadState) :
      (run.map ReadState.allFiles).map (List.map FileDiff.addedOnly) =
        (run.map ReadState.addedOnly).map ReadState.allFiles := by
    rw [map_map_except, map_map_except]
    congr 1
    funext state
    exact (ReadState.allFiles_addedOnly state).symm
  rw [filesOf, filesOf, by_view, by_view, List.append_assoc, List.foldlM_append,
    List.foldlM_append]
  cases above_run : above.foldlM ReadState.read {} with
  | error error => rfl
  | ok state =>
      -- The rows put in keep the added lines, and the rows below see nothing else of the state.
      obtain ⟨next, inserted_run, same⟩ :=
        ReadState.exists_foldlM_of_removed (ends.isPastPreamble above_run) removed
      change Except.map _ (Except.map _ ((inserted ++ below).foldlM ReadState.read state)) =
        Except.map _ (Except.map _ (below.foldlM ReadState.read state))
      rw [List.foldlM_append, inserted_run]
      exact congrArg _ (ReadState.map_addedOnly_foldlM same below)

/-! ## Lines put into a text -/

theorem LineKind.ofRow?_eq_none_iff {row : List Char} :
    ofRow? row = none ↔ ∀ sigil ∈ ['+', '-', ' '], row.head? ≠ some sigil := by
  fun_cases ofRow? row with
  | case4 row plus minus space =>
      have no_sigil : ∀ sigil ∈ ['+', '-', ' '], row.head? ≠ some sigil := by
        intro sigil sigil_mem first
        obtain ⟨content, row_eq⟩ := List.head?_eq_some_iff.mp first
        simp only [List.mem_cons, List.not_mem_nil, or_false] at sigil_mem
        rcases sigil_mem with rfl | rfl | rfl
        · exact plus content row_eq
        · exact minus content row_eq
        · exact space content row_eq
      exact iff_of_true rfl no_sigil
  | _ content => simp

/-- The row is no header, and it has no sigil. -/
def IsSigilless (row : List Char) : Prop :=
  ¬IsFileHeader row ∧ ¬IsHunkHeader row ∧ ∀ sigil ∈ ['+', '-', ' '], row.head? ≠ some sigil

theorem IsSigilless.isNoise {row : List Char} (sigilless : IsSigilless row) : IsNoise row :=
  isNoise_of_ofRow?_eq_none sigilless.1 sigilless.2.1
    (LineKind.ofRow?_eq_none_iff.mpr sigilless.2.2)

theorem IsSigilless.dropReturn {row : List Char} (sigilless : IsSigilless row) :
    IsSigilless (dropReturn row) := by
  obtain ⟨notFile, notHunk, noSigil⟩ := sigilless
  obtain ⟨ending, row_eq⟩ := exists_eq_dropReturn_append row
  refine ⟨?_, ?_, ?_⟩
  · intro isFile
    rw [row_eq] at notFile
    exact notFile (isFile.append ending)
  · rintro ⟨header, heads⟩
    rw [row_eq] at notHunk
    exact notHunk ⟨header, heads.append ending⟩
  · intro sigil sigil_mem first
    exact noSigil sigil sigil_mem (head?_of_head?_dropReturn first)

/-- A text without carriage returns, the rows of which are cut in two, and the text with other rows
put in between. -/
structure IsInserted (text edited : String) (above inserted below : List (List Char)) : Prop where
  clean : '\r' ∉ text.toList
  rows_eq : lines text.toList = above ++ below
  one_line : ∀ row ∈ inserted, '\n' ∉ row
  edited_eq : edited.toList = joinLines (above ++ inserted ++ below)

namespace IsInserted

variable {text edited : String} {above inserted below : List (List Char)}

/-- The rows of the edited text; a row put in may have lost a carriage return. -/
theorem exists_lines_edited (placed : IsInserted text edited above inserted below) :
    ∃ kept, lines edited.toList = above ++ kept ++ below ∧
      ∀ row ∈ kept, ∃ original ∈ inserted, row = original ∨ row = dropReturn original := by
  have one_line : ∀ row ∈ above ++ below, IsOneLine row := by
    rw [← placed.rows_eq]
    exact fun row mem => isOneLine_of_mem_lines placed.clean mem
  rw [List.forall_mem_append] at one_line
  have nonempty : above ++ below ≠ [] := by
    rw [← placed.rows_eq]
    exact List.splitOn_ne_nil '\n' _
  rw [placed.edited_eq]
  exact exists_lines_joinLines_insert one_line.1 placed.one_line one_line.2 nonempty

theorem map_diff_read_of_isSigilless (placed : IsInserted text edited above inserted below)
    (sigilless : ∀ row ∈ inserted, IsSigilless row) :
    (Diff.read edited).map DiffReading.diff = (Diff.read text).map DiffReading.diff := by
  obtain ⟨kept, edited_rows, origins⟩ := placed.exists_lines_edited
  have noise : ∀ row ∈ kept, IsNoise row := by
    intro row row_mem
    obtain ⟨original, original_mem, rfl | rfl⟩ := origins row row_mem
    · exact (sigilless _ original_mem).isNoise
    · exact (sigilless _ original_mem).dropReturn.isNoise
  rw [Diff.map_diff_read, Diff.map_diff_read, edited_rows, placed.rows_eq,
    filesOf_insert_of_isNoise noise]

theorem map_addedOnly_read_of_removed (placed : IsInserted text edited above inserted below)
    (ends : EndsInHunk above) (removed : ∀ row ∈ inserted, row.head? = some '-') :
    (Diff.read edited).map (fun reading => reading.diff.addedOnly) =
      (Diff.read text).map fun reading => reading.diff.addedOnly := by
  obtain ⟨kept, edited_rows, origins⟩ := placed.exists_lines_edited
  have kept_removed : ∀ row ∈ kept, row.head? = some '-' := by
    intro row row_mem
    obtain ⟨original, original_mem, rfl | rfl⟩ := origins row row_mem
    · exact removed _ original_mem
    · exact head?_dropReturn_of_ne (removed _ original_mem) (by decide)
  have by_files (text : String) :
      (Diff.read text).map (fun reading => reading.diff.addedOnly) =
        ((filesOf (lines text.toList)).map (List.map FileDiff.addedOnly)).map Diff.mk := by
    have read_eq := congrArg (Except.map Diff.addedOnly) (Diff.map_diff_read text)
    rw [map_map_except, map_map_except] at read_eq
    rw [map_map_except]
    exact read_eq
  rw [by_files, by_files, edited_rows, placed.rows_eq,
    map_addedOnly_filesOf_insert ends kept_removed]

end IsInserted

/-- What a file says of the new revision. -/
def FileDiff.news (file : FileDiff) :
    String × Option String × FileStatus × Nat × List (String × Nat) :=
  (file.filename, file.oldFilename, file.status, file.additions, file.addedLines)

@[simp]
theorem FileDiff.news_addedOnly (file : FileDiff) : file.addedOnly.news = file.news := by
  rw [news, additions_addedOnly, addedLines_addedOnly]
  rfl

/-- Rows that are put into a hunk go unnoticed without a sigil; with that of a removed line, only
removed lines and findings about churn can be others than before. -/
theorem Diff.read_insert {text edited : String} {above inserted below : List (List Char)}
    (placed : IsInserted text edited above inserted below) (ends : EndsInHunk above) :
    ((∀ row ∈ inserted, IsSigilless row) →
      (read edited).map DiffReading.diff = (read text).map DiffReading.diff) ∧
    ((∀ row ∈ inserted, row.head? = some '-') →
      (∀ error, read edited = .error error ↔ read text = .error error) ∧
      ∀ original, read text = .ok original →
        ∃ changed, read edited = .ok changed ∧
          changed.diff.files.map FileDiff.news = original.diff.files.map FileDiff.news ∧
          (∀ rules, Rule.scan rules changed.diff = Rule.scan rules original.diff) ∧
          ∀ limits : Limits,
            limits.checkApartFrom .churn changed.diff =
              limits.checkApartFrom .churn original.diff) := by
  refine ⟨placed.map_diff_read_of_isSigilless, fun removed => ?_⟩
  have same := placed.map_addedOnly_read_of_removed ends removed
  cases edited_read : read edited with
  | error error =>
      cases text_read : read text with
      | error other =>
          rw [edited_read, text_read] at same
          obtain rfl := Except.error.inj same
          simp
      | ok original => simp [edited_read, text_read, Except.map] at same
  | ok changed =>
      cases text_read : read text with
      | error other => simp [edited_read, text_read, Except.map] at same
      | ok original =>
          rw [edited_read, text_read] at same
          have diffs_eq : changed.diff.addedOnly = original.diff.addedOnly := Except.ok.inj same
          refine ⟨by simp, ?_⟩
          rintro _ ⟨⟩
          refine ⟨changed, rfl, ?_, ?_, ?_⟩
          · have files_eq := congrArg (fun diff => diff.files.map FileDiff.news) diffs_eq
            simpa [addedOnly, Function.comp_def] using files_eq
          · intro rules
            rw [← Rule.scan_addedOnly, diffs_eq, Rule.scan_addedOnly]
          · intro limits
            have churn_ne : Excess.Kind.churn ≠ .longFunction := by decide
            rw [Limits.checkApartFrom_eq_mapM churn_ne, Limits.checkApartFrom_eq_mapM churn_ne,
              ← Limits.filter_findings_addedOnly, diffs_eq, Limits.filter_findings_addedOnly]

/-- Neither the marker of the null device among the removed lines, nor a carriage return at the end
of one, changes what the file is and what is found in it. -/
theorem Diff.read_insert_null_device :
    let above := ["diff --git a/x b/x".toList, "@@ -0,0 +1,2 @@".toList, "+debugger".toList]
    let below := ["+x".toList]
    let removed := ["--- /dev/null".toList, "-old\r".toList]
    let sigilless := ["\\ No newline at end of file\r".toList, []]
    let text := String.ofList (joinLines (above ++ below))
    let edited (inserted : List (List Char)) :=
      String.ofList (joinLines (above ++ inserted ++ below))
    (∀ inserted ∈ [removed, sigilless], IsInserted text (edited inserted) above inserted below) ∧
      EndsInHunk above ∧ (∀ row ∈ sigilless, IsSigilless row) ∧
      (∀ row ∈ removed, row.head? = some '-') ∧
      (read (edited sigilless)).map DiffReading.diff = (read text).map DiffReading.diff ∧
      ∃ changed, read (edited removed) = .ok changed ∧
        changed.diff.files.map FileDiff.news =
          [("x", none, .modified, 2, [("debugger", 1), ("x", 2)])] ∧
        Rule.scan [.debuggerStatement] changed.diff = [Rule.debuggerStatement.comment "x" 1] := by
  intro above below removed sigilless text edited
  have rows_eq : lines text.toList = above ++ below := by
    rw [String.toList_ofList]
    exact lines_joinLines_of_isOneLine (by simp [above, below, IsOneLine]) (by simp)
  have placed : ∀ inserted ∈ [removed, sigilless],
      IsInserted text (edited inserted) above inserted below := by
    have one_line : ∀ inserted ∈ [removed, sigilless], ∀ row ∈ inserted, '\n' ∉ row := by
      simp [removed, sigilless]
    exact fun inserted mem =>
      ⟨by simp [text, above, below, joinLines], rows_eq, one_line inserted mem,
        String.toList_ofList⟩
  have ends : EndsInHunk above := by
    refine ⟨["diff --git a/x b/x".toList], "@@ -0,0 +1,2 @@".toList, ["+debugger".toList], rfl,
      ⟨_, HunkHeader.ofLine?_eq_some_iff.mp rfl⟩, ?_⟩
    rw [List.forall_mem_singleton]
    exact not_isFileHeader_of_head?_ne (by decide)
  have no_sigils : ∀ row ∈ sigilless, IsSigilless row := by
    have heads : ∀ row ∈ sigilless, row.head? ≠ some 'd' ∧ row.head? ≠ some '@' ∧
        ∀ sigil ∈ ['+', '-', ' '], row.head? ≠ some sigil := by
      simp [sigilless]
    exact fun row mem => ⟨not_isFileHeader_of_head?_ne (heads row mem).1,
      not_isHunkHeader_of_head?_ne (heads row mem).2.1, (heads row mem).2.2⟩
  have minus : ∀ row ∈ removed, row.head? = some '-' := by simp [removed]
  let file : FileDiff :=
    { filename := "x", status := .modified, hunks := [
      { header := "@@ -0,0 +1,2 @@", oldStart := 0, oldCount := 0, newStart := 1, newCount := 2,
        lines := [.added "debugger" 1, .added "x" 2] }] }
  obtain ⟨original, text_read, files_eq⟩ : ∃ original, read text = .ok original ∧
      original.diff.files = [file] := by
    rw [← filesOf_lines_eq_ok_iff, rows_eq]
    rfl
  have unnoticed := (read_insert (placed sigilless (by simp)) ends).1 no_sigils
  obtain ⟨changed, changed_read, news_eq, scan_eq, -⟩ :=
    ((read_insert (placed removed (by simp)) ends).2 minus).2 original text_read
  refine ⟨placed, ends, no_sigils, minus, unnoticed, changed, changed_read, ?_, ?_⟩
  · rw [news_eq, files_eq]
    rfl
  · rw [scan_eq, Rule.scan, files_eq]
    rfl

end DiffReview
