import DiffReview.Proofs.Diff.Section
import DiffReview.Proofs.Except

/-!
# Reading is cutting

`Diff.read` goes through the rows once with a state; here its result is shown to be what the
sections of the rows stand for.  Each kind of row has a step lemma; the run lemmas follow the cut:
rows of a hunk, hunks of a file, files of a diff.  All that a run hands over to the next section is
`ReadState.seen`.
-/

namespace DiffReview

open Text

/-! ## Numbers of a hunk header -/

private theorem readDigits_eq_ok_iff {digits : List Char} {value : Nat} :
    readDigits digits = .ok value ↔ digits.length ≤ maxDigits ∧ value = digitsValue digits := by
  rw [readDigits]
  split
  · simp
    omega
  · simp [eq_comm]
    omega

namespace RangeDigits

/-- A missing count is read as the numeral one. -/
theorem fits_iff {range : RangeDigits} :
    range.Fits ↔
      range.start.length ≤ maxDigits ∧ (range.count.getD ['1']).length ≤ maxDigits := by
  cases given : range.count with
  | none => simp [Fits, given, maxDigits]
  | some count => simp [Fits, given]

theorem countValue_eq (range : RangeDigits) :
    range.countValue = digitsValue (range.count.getD ['1']) := by
  cases given : range.count with
  | none =>
      rw [countValue, given]
      decide
  | some count => simp [countValue, given]

end RangeDigits

namespace HunkHeader

/-- The four numbers that the header gives. -/
def range (header : HunkHeader) : HunkRange where
  oldStart := header.old.startValue
  oldCount := header.old.countValue
  newStart := header.new.startValue
  newCount := header.new.countValue

theorem numbers_eq_ok_iff {header : HunkHeader} {range : HunkRange} :
    header.numbers = .ok range ↔ (header.old.Fits ∧ header.new.Fits) ∧ range = header.range := by
  simp only [numbers, bind_eq_ok_iff, readDigits_eq_ok_iff, RangeDigits.fits_iff,
    HunkHeader.range, RangeDigits.startValue, RangeDigits.countValue_eq]
  constructor
  · rintro ⟨_, ⟨oldStart, rfl⟩, _, ⟨newStart, rfl⟩, _, ⟨oldCount, rfl⟩, _, ⟨newCount, rfl⟩, ends⟩
    exact ⟨⟨⟨oldStart, oldCount⟩, newStart, newCount⟩, (Except.ok.inj ends).symm⟩
  · rintro ⟨⟨⟨oldStart, oldCount⟩, newStart, newCount⟩, rfl⟩
    exact ⟨_, ⟨oldStart, rfl⟩, _, ⟨newStart, rfl⟩, _, ⟨oldCount, rfl⟩, _, ⟨newCount, rfl⟩, rfl⟩

end HunkHeader

/-! ## Rows of a hunk -/

namespace OpenHunk

/-- The hunk after one more row, which is ignored if it has no sigil. -/
def extend (state : OpenHunk) (row : List Char) : OpenHunk :=
  (state.push? row).getD state

theorem push?_eq_map_ofRow? (state : OpenHunk) (row : List Char) :
    state.push? row = (LineKind.ofRow? row).map fun (kind, content) =>
      { state with
        reversed := kind.line content state.nextOld state.nextNew :: state.reversed
        nextOld := state.nextOld + if kind.inOld then 1 else 0
        nextNew := state.nextNew + if kind.inNew then 1 else 0 } := by
  fun_cases LineKind.ofRow? row with
  | case1 => rfl
  | case2 => rfl
  | case3 => rfl
  | case4 plus minus space => simp [push?]

/-- The lines of a hunk are its rows with a sigil, numbered from the next numbers of the state. -/
theorem close_foldl_extend (state : OpenHunk) (rows : List (List Char)) :
    (rows.foldl extend state).close =
      { state.close with
        lines := state.close.lines ++
          numbered state.nextOld state.nextNew (rows.filterMap LineKind.ofRow?) } := by
  induction rows generalizing state with
  | nil => simp [numbered]
  | cons row rows induction =>
      rw [List.foldl_cons, induction, extend, push?_eq_map_ofRow?]
      cases read : LineKind.ofRow? row with
      | none => simp [read]
      | some entry =>
          obtain ⟨kind, content⟩ := entry
          simp [read, close, numbered_cons]

end OpenHunk

/-! ## Steps -/

namespace ReadState

/-- What a state hands over to the next section: the files read so far, and the number of rows that
could not be placed. -/
def seen (state : ReadState) : List FileDiff × Nat :=
  (state.allFiles, state.skipped)

theorem read_of_heads (state : ReadState) {header : FileHeader} {row : List Char}
    (heads : header.Heads row) : state.read row = .ok (state.openFile header) := by
  rw [read, FileHeader.ofLine?_eq_some_iff.mpr heads]

theorem read_preface (files : List FileDiff) (skipped : Nat) {row : List Char}
    (notFile : ¬IsFileHeader row) :
    read ⟨files, none, skipped⟩ row = .ok ⟨files, none, skipped + 1⟩ := by
  rw [read, FileHeader.ofLine?_eq_none_iff.mpr notFile]
  rfl

theorem read_hunkHeader (files : List FileDiff) (file : OpenFile) (skipped : Nat)
    {header : HunkHeader} {row : List Char} (notFile : ¬IsFileHeader row)
    (heads : header.Heads row) :
    read ⟨files, some file, skipped⟩ row =
      header.numbers.map fun range => ⟨files, some (file.openHunk row range), skipped⟩ := by
  rw [read, FileHeader.ofLine?_eq_none_iff.mpr notFile]
  simp only [readInFile, HunkHeader.ofLine?_eq_some_iff.mpr heads]
  rfl

theorem read_preamble (files : List FileDiff) (file : FileDiff) (skipped : Nat) {row : List Char}
    (notFile : ¬IsFileHeader row) (notHunk : ¬IsHunkHeader row) :
    read ⟨files, some ⟨file, none⟩, skipped⟩ row =
      .ok ⟨files, some ⟨{ file with
        status := (FileSection.markedStatus? row).getD file.status }, none⟩, skipped⟩ := by
  rw [read, FileHeader.ofLine?_eq_none_iff.mpr notFile]
  simp only [readInFile, HunkHeader.ofLine?_eq_none_iff.mpr notHunk, OpenFile.readPreamble,
    FileSection.markedStatus?, Side.isAbsent_eq_true_iff]
  split_ifs <;> rfl

theorem read_body (files : List FileDiff) (file : FileDiff) (hunk : OpenHunk) (skipped : Nat)
    {row : List Char} (notFile : ¬IsFileHeader row) (notHunk : ¬IsHunkHeader row) :
    read ⟨files, some ⟨file, some hunk⟩, skipped⟩ row =
      .ok ⟨files, some ⟨file, some (hunk.extend row)⟩,
        skipped + if !LineKind.marks row then 1 else 0⟩ := by
  rw [read, FileHeader.ofLine?_eq_none_iff.mpr notFile]
  simp only [readInFile, HunkHeader.ofLine?_eq_none_iff.mpr notHunk, OpenHunk.extend,
    OpenHunk.push?_eq_map_ofRow?]
  cases read : LineKind.ofRow? row with
  | none => simp [LineKind.marks, read, skip]
  | some entry => simp [LineKind.marks, read]

/-! ## Runs -/

theorem foldlM_preface (files : List FileDiff) (skipped : Nat) {rows : List (List Char)}
    (notFile : ∀ row ∈ rows, ¬IsFileHeader row) :
    rows.foldlM read ⟨files, none, skipped⟩ = .ok ⟨files, none, skipped + rows.length⟩ := by
  induction rows generalizing skipped with
  | nil => rfl
  | cons row rows induction =>
      rw [List.forall_mem_cons] at notFile
      rw [List.foldlM_cons, read_preface files skipped notFile.1]
      refine (induction (skipped + 1) notFile.2).trans ?_
      rw [List.length_cons, Nat.add_right_comm, Nat.add_assoc]

/-- The last marker before the first hunk decides the status. -/
theorem foldlM_preamble (files : List FileDiff) (file : FileDiff) (skipped : Nat)
    {rows : List (List Char)} (notFile : ∀ row ∈ rows, ¬IsFileHeader row)
    (notHunk : ∀ row ∈ rows, ¬IsHunkHeader row) :
    rows.foldlM read ⟨files, some ⟨file, none⟩, skipped⟩ =
      .ok ⟨files, some ⟨{ file with
        status := (rows.filterMap FileSection.markedStatus?).getLast?.getD file.status }, none⟩,
        skipped⟩ := by
  induction rows generalizing file with
  | nil => rfl
  | cons row rows induction =>
      rw [List.forall_mem_cons] at notFile notHunk
      rw [List.foldlM_cons, read_preamble files file skipped notFile.1 notHunk.1]
      refine (induction _ notFile.2 notHunk.2).trans ?_
      cases marked : FileSection.markedStatus? row with
      | none => simp [marked]
      | some status => simp [marked, List.getLast?_cons]

theorem foldlM_body (files : List FileDiff) (file : FileDiff) (hunk : OpenHunk) (skipped : Nat)
    {rows : List (List Char)} (notFile : ∀ row ∈ rows, ¬IsFileHeader row)
    (notHunk : ∀ row ∈ rows, ¬IsHunkHeader row) :
    rows.foldlM read ⟨files, some ⟨file, some hunk⟩, skipped⟩ =
      .ok ⟨files, some ⟨file, some (rows.foldl OpenHunk.extend hunk)⟩,
        skipped + rows.countP fun row => !LineKind.marks row⟩ := by
  induction rows generalizing hunk skipped with
  | nil => rfl
  | cons row rows induction =>
      rw [List.forall_mem_cons] at notFile notHunk
      rw [List.foldlM_cons, read_body files file hunk skipped notFile.1 notHunk.1]
      refine (induction _ _ notFile.2 notHunk.2).trans ?_
      rw [List.foldl_cons, List.countP_cons, Nat.add_assoc, Nat.add_comm (List.countP _ rows)]

end ReadState

/-! ## Sections -/

namespace HunkSection

/-- The hunk that the section stands for, unless a number has too many digits. -/
def read (hunk : HunkSection) : Except DigitLimitError Hunk :=
  hunk.header.numbers.map fun _ => hunk.hunk

theorem close_foldl_extend (hunk : HunkSection) :
    (hunk.body.foldl OpenHunk.extend (.ofHeader hunk.row hunk.header.range)).close =
      hunk.hunk := by
  rw [OpenHunk.close_foldl_extend]
  rfl

/-- The hunks of a section, read with a file open, are added to that file. -/
theorem foldlM_rows {hunks : List HunkSection} (cut : ∀ hunk ∈ hunks, hunk.IsCut)
    (notFile : ∀ row ∈ hunks.flatMap rows, ¬IsFileHeader row) (files : List FileDiff)
    (file : OpenFile) (skipped : Nat) :
    ((hunks.flatMap rows).foldlM ReadState.read ⟨files, some file, skipped⟩).map ReadState.seen =
      (hunks.mapM read).map fun more =>
        (files ++ [{ file.close with hunks := file.close.hunks ++ more }],
          skipped + (hunks.flatMap body).countP fun row => !LineKind.marks row) := by
  induction hunks generalizing file skipped with
  | nil => simp [ReadState.seen, ReadState.allFiles, Except.map, pure, Except.pure]
  | cons hunk hunks induction =>
      rw [List.forall_mem_cons] at cut
      obtain ⟨⟨heads, body_plain⟩, cut_rest⟩ := cut
      simp only [List.flatMap_cons, rows, List.cons_append, List.forall_mem_cons,
        List.forall_mem_append] at notFile
      obtain ⟨row_plain, body_noFile, rest_noFile⟩ := notFile
      rw [List.flatMap_cons, rows, List.cons_append, List.foldlM_cons, List.mapM_cons, read,
        ReadState.read_hunkHeader files file skipped row_plain heads]
      cases numbers : hunk.header.numbers with
      | error error => rfl
      | ok range =>
          obtain ⟨-, rfl⟩ := HunkHeader.numbers_eq_ok_iff.mp numbers
          simp only [Except.map, bind, Except.bind, List.foldlM_append, OpenFile.openHunk,
            ReadState.foldlM_body files file.close _ skipped body_noFile body_plain]
          have rest := induction cut_rest rest_noFile
            ⟨file.close, some (hunk.body.foldl OpenHunk.extend
              (.ofHeader hunk.row hunk.header.range))⟩
            (skipped + hunk.body.countP fun row => !LineKind.marks row)
          simp only [OpenFile.close, Option.map_some, Option.toList_some,
            close_foldl_extend] at rest
          refine rest.trans ?_
          cases hunks.mapM read with
          | error error => rfl
          | ok more =>
              simp [Except.map, pure, Except.pure, OpenFile.close, Nat.add_assoc]

end HunkSection

theorem OpenFile.ofHeader_eq (header : FileHeader) :
    ofHeader header = ⟨{
      filename := String.ofList header.newPath
      status := if header.oldPath = header.newPath then .modified else .renamed
      oldFilename :=
        if header.oldPath = header.newPath then none else some (String.ofList header.oldPath) },
      none⟩ := by
  rw [ofHeader]
  split <;> rfl

namespace FileSection

/-- The file that the section stands for, unless a number has too many digits. -/
def read (file : FileSection) : Except DigitLimitError FileDiff :=
  (file.hunks.mapM HunkSection.read).map fun hunks => { file.file with hunks }

theorem foldlM_rows {file : FileSection} (cut : file.IsCut) (state : ReadState) :
    (file.rows.foldlM ReadState.read state).map ReadState.seen =
      file.read.map fun next =>
        (state.allFiles ++ [next],
          state.skipped + file.bodies.countP fun row => !LineKind.marks row) := by
  obtain ⟨heads, below_plain, preamble_plain, hunks_cut⟩ := cut
  rw [below, List.forall_mem_append] at below_plain
  rw [rows, below, List.foldlM_cons, ReadState.read_of_heads state heads, ReadState.openFile,
    OpenFile.ofHeader_eq]
  simp only [bind, Except.bind, List.foldlM_append,
    ReadState.foldlM_preamble state.allFiles _ state.skipped below_plain.1 preamble_plain]
  refine (HunkSection.foldlM_rows hunks_cut below_plain.2 state.allFiles _ state.skipped).trans ?_
  rw [read]
  cases file.hunks.mapM HunkSection.read with
  | error error => rfl
  | ok hunks => rfl

end FileSection

namespace DiffSections

/-- The diff that the sections stand for, unless a number has too many digits. -/
def read (sections : DiffSections) : Except DigitLimitError DiffReading :=
  (sections.files.mapM FileSection.read).map fun files =>
    { sections.reading with diff := { files } }

theorem foldlM_rows {files : List FileSection} (cut : ∀ file ∈ files, file.IsCut)
    (state : ReadState) :
    ((files.flatMap FileSection.rows).foldlM ReadState.read state).map ReadState.seen =
      (files.mapM FileSection.read).map fun more =>
        (state.allFiles ++ more,
          state.skipped +
            (files.flatMap FileSection.bodies).countP fun row => !LineKind.marks row) := by
  induction files generalizing state with
  | nil => simp [ReadState.seen, Except.map, pure, Except.pure]
  | cons file files induction =>
      rw [List.forall_mem_cons] at cut
      have first := FileSection.foldlM_rows cut.1 state
      rw [List.flatMap_cons, List.foldlM_append, List.mapM_cons]
      generalize file.rows.foldlM ReadState.read state = ran at first
      -- The next section depends on the first one only through what has been seen.
      cases fileRead : file.read with
      | error error =>
          rw [fileRead] at first
          cases ran with
          | error runError => simpa [Except.map, bind, Except.bind] using first
          | ok next => simp [Except.map] at first
      | ok more =>
          rw [fileRead] at first
          cases ran with
          | error runError => simp [Except.map] at first
          | ok next =>
              have seen_eq : next.seen =
                  (state.allFiles ++ [more],
                    state.skipped + file.bodies.countP fun row => !LineKind.marks row) := by
                simpa [Except.map] using first
              obtain ⟨files_eq, skipped_eq⟩ := Prod.mk.inj seen_eq
              refine (induction cut.2 next).trans ?_
              rw [files_eq, skipped_eq]
              cases files.mapM FileSection.read with
              | error error => rfl
              | ok rest =>
                  simp [Except.map, bind, Except.bind, pure, Except.pure, Nat.add_assoc]

end DiffSections

namespace Diff

theorem read_eq (text : String) :
    read text = (((lines text.toList).foldlM ReadState.read {}).map ReadState.seen).map
      fun (files, skipped) => { diff := { files }, skipped } := by
  rw [read]
  cases (lines text.toList).foldlM ReadState.read {} with
  | error error => rfl
  | ok state => rfl

/-- Reading a text fails as reading its rows does. -/
theorem read_eq_error_iff_foldlM {text : String} {error : DigitLimitError} :
    read text = .error error ↔
      (lines text.toList).foldlM ReadState.read {} = .error error := by
  rw [read_eq]
  cases (lines text.toList).foldlM ReadState.read {} with
  | error other => simp [Except.map]
  | ok state => simp [Except.map]

/-- Reading a diff is reading its sections, whichever way its rows are cut into sections. -/
theorem read_eq_read_sections {text : String} {sections : DiffSections}
    (cut : sections.IsCutOf (lines text.toList)) : read text = sections.read := by
  obtain ⟨rows_eq, preface_plain, files_cut⟩ := cut
  rw [read_eq, rows_eq, List.foldlM_append, ReadState.foldlM_preface [] 0 preface_plain]
  simp only [bind, Except.bind]
  rw [DiffSections.foldlM_rows files_cut, DiffSections.read]
  cases sections.files.mapM FileSection.read with
  | error error => rfl
  | ok files => simp [Except.map, ReadState.allFiles, DiffSections.reading]

end Diff

/-! ## Readings -/

theorem HunkSection.read_eq_ok_iff (hunkSection : HunkSection) (hunk : Hunk) :
    hunkSection.read = .ok hunk ↔ hunkSection.Fits ∧ hunk = hunkSection.hunk :=
  map_eq_ok_iff (fun _ => HunkHeader.numbers_eq_ok_iff) _ hunk

theorem FileSection.read_eq_ok_iff (fileSection : FileSection) (file : FileDiff) :
    fileSection.read = .ok file ↔ fileSection.Fits ∧ file = fileSection.file :=
  map_eq_ok_iff (fun _ => mapM_eq_ok_iff HunkSection.read_eq_ok_iff) _ file

theorem DiffSections.read_eq_ok_iff (sections : DiffSections) (reading : DiffReading) :
    sections.read = .ok reading ↔ sections.Fits ∧ reading = sections.reading :=
  map_eq_ok_iff (fun _ => mapM_eq_ok_iff FileSection.read_eq_ok_iff) _ reading

namespace Diff

/-- What can be read from a text is what the sections of its lines stand for. -/
theorem read_eq_ok_iff_exists_sections {text : String} {reading : DiffReading} :
    read text = .ok reading ↔
      ∃ sections : DiffSections,
        sections.IsCutOf (lines text.toList) ∧ sections.Fits ∧ reading = sections.reading := by
  constructor
  · intro read_ok
    obtain ⟨sections, cut⟩ := DiffSections.exists_isCutOf (lines text.toList)
    rw [read_eq_read_sections cut, DiffSections.read_eq_ok_iff] at read_ok
    exact ⟨sections, cut, read_ok⟩
  · rintro ⟨sections, cut, fits_and_eq⟩
    rw [read_eq_read_sections cut, DiffSections.read_eq_ok_iff]
    exact fits_and_eq

end Diff

end DiffReview
