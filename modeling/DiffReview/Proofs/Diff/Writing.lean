import DiffReview.Proofs.Diff.Attribution
import DiffReview.Proofs.Text.Decimal

/-!
# Diffs in writing

An outline holds what the diff of a file has to say: the paths, what became of the file, and the
lines of its hunks.  Here outlines are written as the rows of a diff; `Diff.read_write` recovers
them from any text of these rows, whatever contents, suffixes and paths look like.
-/

namespace DiffReview

open Text

/-! ## Outlines -/

/-- A text of one line. -/
structure OneLine where
  text : String
  isOneLine : IsOneLine text.toList

/-- A path that does not start at the root, on one line. -/
structure RelativePath extends OneLine where
  ne_nil : text.toList ≠ []
  head?_ne : text.toList.head? ≠ some '/'

/-- The numbers of a range, each of which can be read again. -/
def HunkRange.IsReadable (range : HunkRange) : Prop :=
  ∀ number ∈ [range.oldStart, range.oldCount, range.newStart, range.newCount],
    number < Nat.pow 10 maxDigits

/-- What a hunk has to say: the numbers of its header, the text after them, and its lines. -/
structure HunkOutline where
  range : HunkRange
  isReadable : range.IsReadable
  suffix : OneLine
  entries : List (LineKind × OneLine)

/-- What became of a file. -/
inductive FileFate
  | added
  | deleted
  | kept
deriving DecidableEq, Repr

/-- What the diff of a file has to say. -/
structure FileOutline where
  oldPath : RelativePath
  newPath : RelativePath
  /-- Behind its first character, the old path has no mark of the new one. -/
  not_infix : ¬" b/".toList <:+: oldPath.text.toList.tail
  fate : FileFate
  hunks : List HunkOutline

/-! ## What outlines stand for -/

/-- Both numbers of a range in decimal digits. -/
def rangeText (start count : Nat) : List Char :=
  Nat.toDigits 10 start ++ ',' :: Nat.toDigits 10 count

namespace HunkOutline

/-- The first row of the hunk. -/
def headerRow (outline : HunkOutline) : List Char :=
  "@@ -".toList ++ rangeText outline.range.oldStart outline.range.oldCount ++
    " +".toList ++ rangeText outline.range.newStart outline.range.newCount ++
    " @@".toList ++ outline.suffix.text.toList

/-- The hunk, its lines numbered from the starts of the range. -/
def hunk (outline : HunkOutline) : Hunk where
  header := String.ofList outline.headerRow
  oldStart := outline.range.oldStart
  oldCount := outline.range.oldCount
  newStart := outline.range.newStart
  newCount := outline.range.newCount
  lines := numbered outline.range.oldStart outline.range.newStart
    (outline.entries.map fun (kind, content) => (kind, content.text))

end HunkOutline

namespace FileOutline

/-- The file that the outline describes. -/
def file (outline : FileOutline) : FileDiff where
  filename := outline.newPath.text
  status :=
    match outline.fate with
    | .added => .added
    | .deleted => .deleted
    | .kept => if outline.oldPath.text = outline.newPath.text then .modified else .renamed
  oldFilename :=
    if outline.oldPath.text = outline.newPath.text then none else some outline.oldPath.text
  hunks := outline.hunks.map HunkOutline.hunk

end FileOutline

/-! ## Rows -/

/-- The character before the lines of a kind. -/
def LineKind.sigil : LineKind → Char
  | added => '+'
  | removed => '-'
  | context => ' '

/-- The marker row of a side, which names the path, or the null device where there is none. -/
def Side.markerRow (side : Side) (path : Option (List Char)) : List Char :=
  side.marker ++ path.elim "/dev/null".toList (side.letter ++ ·)

/-- The rows of a hunk: the header, then the lines behind their sigils. -/
def HunkOutline.rows (outline : HunkOutline) : List (List Char) :=
  outline.headerRow ::
    outline.entries.map fun (kind, content) => kind.sigil :: content.text.toList

namespace FileOutline

/-- The first row of the file. -/
def headerRow (outline : FileOutline) : List Char :=
  "diff --git a/".toList ++ outline.oldPath.text.toList ++ " b/".toList ++
    outline.newPath.text.toList

/-- The two rows that name the file on either side, if it is there. -/
def markerRows (outline : FileOutline) : List (List Char) :=
  [Side.old.markerRow (if outline.fate = .added then none else some outline.oldPath.text.toList),
    Side.new.markerRow (if outline.fate = .deleted then none else some outline.newPath.text.toList)]

/-- The rows of a file: the header, the markers, the hunks. -/
def rows (outline : FileOutline) : List (List Char) :=
  outline.headerRow :: (outline.markerRows ++ outline.hunks.flatMap HunkOutline.rows)

end FileOutline

/-- The text of a diff: the rows of all files, each ended by a line break; the last one may have
none. -/
def Diff.write (outlines : List FileOutline) (breaks : Nat → LineBreak)
    (ending : Option LineBreak) : String :=
  String.ofList
    (layOut breaks (outlines.flatMap FileOutline.rows) ++ ending.elim [] LineBreak.characters)

/-! ## Numbers -/

theorem isNumeral_toDigits (number : Nat) : IsNumeral (Nat.toDigits 10 number) := by
  refine ⟨Nat.toDigits_ne_nil, ?_⟩
  intro character mem
  rw [isDigit, digitValue?_of_mem_toDigits mem]
  rfl

/-- A range with both numbers written out. -/
def RangeDigits.ofNumbers (start count : Nat) : RangeDigits :=
  ⟨Nat.toDigits 10 start, some (Nat.toDigits 10 count)⟩

namespace RangeDigits

theorem isWritten_ofNumbers (start count : Nat) : (ofNumbers start count).IsWritten := by
  refine ⟨isNumeral_toDigits start, ?_⟩
  rintro digits ⟨rfl⟩
  exact isNumeral_toDigits count

theorem fits_ofNumbers {start count : Nat} (start_lt : start < Nat.pow 10 maxDigits)
    (count_lt : count < Nat.pow 10 maxDigits) : (ofNumbers start count).Fits := by
  refine ⟨(length_toDigits_le_iff (by decide)).mpr start_lt, ?_⟩
  rintro digits ⟨rfl⟩
  exact (length_toDigits_le_iff (by decide)).mpr count_lt

theorem startValue_ofNumbers (start count : Nat) : (ofNumbers start count).startValue = start :=
  digitsValue_toDigits start

theorem countValue_ofNumbers (start count : Nat) : (ofNumbers start count).countValue = count :=
  digitsValue_toDigits count

end RangeDigits

/-! ## Rows are read as what they are -/

/-- A header is read with its own old path where that path has no earlier mark. -/
theorem FileHeader.heads_of_not_infix {old new : List Char} (old_ne_nil : old ≠ [])
    (new_ne_nil : new ≠ []) (absent : ¬" b/".toList <:+: old.tail) :
    Heads ⟨old, new⟩ ("diff --git a/".toList ++ old ++ " b/".toList ++ new) := by
  refine ⟨⟨old_ne_nil, new_ne_nil, rfl⟩, ?_⟩
  rintro ⟨otherOld, otherNew⟩ ⟨other_ne_nil, -, line_eq⟩
  simp only [List.append_assoc, List.append_cancel_left_eq] at line_eq
  rcases List.append_eq_append_iff.mp line_eq with ⟨gap, rfl, -⟩ | ⟨gap, rfl, gap_eq⟩
  · simp
  · -- A gap before the mark of the header would hold the other mark, as it is no part of ours.
    match gap, gap_eq with
    | [], _ => simp
    | [first], gap_eq => simp at gap_eq
    | [first, second], gap_eq => simp at gap_eq
    | first :: second :: third :: gap, gap_eq =>
        obtain ⟨rfl, rfl, rfl, -⟩ : ' ' = first ∧ 'b' = second ∧ '/' = third ∧ _ := by
          simpa using gap_eq
        refine absurd ⟨otherOld.tail, gap, ?_⟩ absent
        rw [List.tail_append_of_ne_nil other_ne_nil]
        simp

namespace Side

theorem namesNothing_markerRow_none (side : Side) : side.NamesNothing (side.markerRow none) :=
  ⟨[], [], .inl rfl, by simp, by simp [markerRow]⟩

theorem not_namesNothing_markerRow_some (side : Side) {path : List Char}
    (relative : path.head? ≠ some '/') : ¬side.NamesNothing (side.markerRow (some path)) := by
  rintro ⟨letter, blanks, rfl | rfl, -, row_eq⟩
  · cases side <;> simp [markerRow, Side.letter] at row_eq
  · simp only [markerRow, Option.elim_some, List.append_assoc, List.append_cancel_left_eq] at row_eq
    exact relative (by rw [row_eq]; rfl)

theorem not_namesNothing_markerRow_of_ne {side other : Side} (different : side ≠ other)
    (path : Option (List Char)) : ¬side.NamesNothing (other.markerRow path) := by
  rintro ⟨letter, blanks, -, -, row_eq⟩
  cases side <;> cases other <;> simp [markerRow, marker] at row_eq different

end Side

theorem LineKind.ofRow?_sigil (kind : LineKind) (content : String) :
    ofRow? (kind.sigil :: content.toList) = some (kind, content) := by
  cases kind <;> simp [sigil, ofRow?]

/-! ## Rows as sections -/

namespace HunkOutline

/-- The section of the hunk. -/
def toSection (outline : HunkOutline) : HunkSection where
  row := outline.headerRow
  header := ⟨.ofNumbers outline.range.oldStart outline.range.oldCount,
    .ofNumbers outline.range.newStart outline.range.newCount⟩
  body := outline.entries.map fun (kind, content) => kind.sigil :: content.text.toList

theorem rows_toSection (outline : HunkOutline) : outline.toSection.rows = outline.rows := rfl

theorem head?_headerRow (outline : HunkOutline) : outline.headerRow.head? = some '@' := by
  unfold headerRow
  rfl

theorem head?_of_mem_body {outline : HunkOutline} {row : List Char}
    (row_mem : row ∈ outline.toSection.body) :
    row.head? ≠ some 'd' ∧ row.head? ≠ some '@' := by
  obtain ⟨⟨kind, content⟩, -, rfl⟩ := List.mem_map.mp row_mem
  cases kind <;> simp [LineKind.sigil]

theorem isCut_toSection (outline : HunkOutline) : outline.toSection.IsCut where
  heads := ⟨RangeDigits.isWritten_ofNumbers outline.range.oldStart outline.range.oldCount,
    RangeDigits.isWritten_ofNumbers outline.range.newStart outline.range.newCount,
    outline.suffix.text.toList, rfl⟩
  body _ row_mem := not_isHunkHeader_of_head?_ne (head?_of_mem_body row_mem).2

theorem fits_toSection (outline : HunkOutline) : outline.toSection.Fits := by
  have readable := outline.isReadable
  simp only [HunkRange.IsReadable, List.forall_mem_cons] at readable
  obtain ⟨oldStart, oldCount, newStart, newCount, -⟩ := readable
  exact ⟨RangeDigits.fits_ofNumbers oldStart oldCount,
    RangeDigits.fits_ofNumbers newStart newCount⟩

theorem entries_toSection (outline : HunkOutline) :
    outline.toSection.entries =
      outline.entries.map fun (kind, content) => (kind, content.text) := by
  rw [HunkSection.entries, toSection, List.filterMap_map]
  induction outline.entries with
  | nil => rfl
  | cons entry entries induction =>
      rw [List.map_cons, ← induction]
      exact List.filterMap_cons_some (LineKind.ofRow?_sigil entry.1 entry.2.text)

theorem hunk_toSection (outline : HunkOutline) : outline.toSection.hunk = outline.hunk := by
  rw [HunkSection.hunk, entries_toSection]
  simp only [toSection, RangeDigits.startValue_ofNumbers, RangeDigits.countValue_ofNumbers, hunk]

end HunkOutline

namespace FileOutline

/-- The section of the file. -/
def toSection (outline : FileOutline) : FileSection where
  row := outline.headerRow
  header := ⟨outline.oldPath.text.toList, outline.newPath.text.toList⟩
  preamble := outline.markerRows
  hunks := outline.hunks.map HunkOutline.toSection

theorem rows_toSection (outline : FileOutline) : outline.toSection.rows = outline.rows := by
  simp [FileSection.rows, FileSection.below, toSection, rows, List.flatMap_map,
    HunkOutline.rows_toSection]

theorem head?_of_mem_preamble {outline : FileOutline} {row : List Char}
    (row_mem : row ∈ outline.toSection.preamble) :
    row.head? ≠ some 'd' ∧ row.head? ≠ some '@' := by
  simp only [toSection, markerRows, List.mem_pair] at row_mem
  rcases row_mem with rfl | rfl <;> simp [Side.markerRow, Side.marker]

theorem isCut_toSection (outline : FileOutline) : outline.toSection.IsCut where
  heads := FileHeader.heads_of_not_infix outline.oldPath.ne_nil outline.newPath.ne_nil
    outline.not_infix
  below := by
    intro row row_mem
    rcases List.mem_append.mp row_mem with in_preamble | in_hunks
    · exact not_isFileHeader_of_head?_ne (head?_of_mem_preamble in_preamble).1
    · obtain ⟨hunkSection, section_mem, row_mem⟩ := List.mem_flatMap.mp in_hunks
      obtain ⟨hunk, -, rfl⟩ := List.mem_map.mp section_mem
      rcases List.mem_cons.mp row_mem with rfl | in_body
      · refine not_isFileHeader_of_head?_ne ?_
        rw [HunkOutline.toSection, HunkOutline.head?_headerRow]
        decide
      · exact not_isFileHeader_of_head?_ne (HunkOutline.head?_of_mem_body in_body).1
  preamble row row_mem := not_isHunkHeader_of_head?_ne (head?_of_mem_preamble row_mem).2
  hunks hunkSection section_mem := by
    obtain ⟨hunk, -, rfl⟩ := List.mem_map.mp section_mem
    exact hunk.isCut_toSection

theorem fits_toSection (outline : FileOutline) : outline.toSection.Fits := by
  intro hunkSection section_mem
  obtain ⟨hunk, -, rfl⟩ := List.mem_map.mp section_mem
  exact hunk.fits_toSection

/-- The markers give a status to a file that is new or gone, and to no other one. -/
theorem filterMap_markedStatus?_markerRows (outline : FileOutline) :
    outline.markerRows.filterMap FileSection.markedStatus? =
      match outline.fate with
      | .added => [.added]
      | .deleted => [.deleted]
      | .kept => [] := by
  have absent_old := Side.namesNothing_markerRow_none .old
  have absent_new := Side.namesNothing_markerRow_none .new
  have present_old := Side.not_namesNothing_markerRow_some .old outline.oldPath.head?_ne
  have present_new := Side.not_namesNothing_markerRow_some .new outline.newPath.head?_ne
  have new_ne_old : ∀ path, ¬Side.old.NamesNothing (Side.new.markerRow path) :=
    Side.not_namesNothing_markerRow_of_ne (by decide)
  have old_ne_new : ∀ path, ¬Side.new.NamesNothing (Side.old.markerRow path) :=
    Side.not_namesNothing_markerRow_of_ne (by decide)
  cases fate_eq : outline.fate with
  | added =>
      simp [markerRows, fate_eq, FileSection.markedStatus?, absent_old, present_new, new_ne_old]
  | deleted =>
      simp [markerRows, fate_eq, FileSection.markedStatus?, absent_new, present_old, new_ne_old,
        old_ne_new]
  | kept =>
      simp [markerRows, fate_eq, FileSection.markedStatus?, present_old, present_new, new_ne_old,
        old_ne_new]

theorem file_toSection (outline : FileOutline) : outline.toSection.file = outline.file := by
  have status_eq : outline.toSection.status = outline.file.status := by
    simp only [FileSection.status, toSection, filterMap_markedStatus?_markerRows,
      String.toList_inj, file]
    cases outline.fate <;> rfl
  have hunks_eq : outline.toSection.hunks.map HunkSection.hunk = outline.file.hunks := by
    simp [toSection, file, HunkOutline.hunk_toSection]
  rw [FileSection.file, status_eq, hunks_eq]
  simp [toSection, file, String.toList_inj]

end FileOutline

/-! ## Rows as lines -/

theorem isOneLine_rangeText (start count : Nat) : IsOneLine (rangeText start count) := by
  have isOneLine_toDigits : ∀ number, IsOneLine (Nat.toDigits 10 number) := by
    intro number
    have digits : ∀ character ∈ Nat.toDigits 10 number, character.isDigit = true :=
      fun _ => Nat.isDigit_of_mem_toDigits (by decide) (by decide)
    exact ⟨fun mem => absurd (digits _ mem) (by decide),
      fun mem => absurd (digits _ mem) (by decide)⟩
  rw [rangeText, isOneLine_append_iff, isOneLine_cons_iff]
  exact ⟨isOneLine_toDigits start, by decide, isOneLine_toDigits count⟩

theorem HunkOutline.isOneLine_of_mem_rows {outline : HunkOutline} {row : List Char}
    (row_mem : row ∈ outline.rows) : IsOneLine row := by
  rcases List.mem_cons.mp row_mem with rfl | in_body
  · unfold headerRow
    simp only [isOneLine_append_iff, isOneLine_rangeText, outline.suffix.isOneLine]
    simp [IsOneLine]
  · obtain ⟨⟨kind, content⟩, -, rfl⟩ := List.mem_map.mp in_body
    rw [isOneLine_cons_iff]
    refine ⟨?_, content.isOneLine⟩
    cases kind <;> decide

theorem Side.isOneLine_markerRow (side : Side) {path : Option (List Char)}
    (one_line : ∀ text ∈ path, IsOneLine text) : IsOneLine (side.markerRow path) := by
  cases path with
  | none => cases side <;> simp [markerRow, marker, IsOneLine]
  | some text =>
      have text_one_line : IsOneLine text := one_line text rfl
      rw [markerRow, Option.elim_some, isOneLine_append_iff, isOneLine_append_iff]
      refine ⟨?_, ?_, text_one_line⟩ <;> cases side <;> simp [marker, letter, IsOneLine]

theorem FileOutline.isOneLine_of_mem_rows {outline : FileOutline} {row : List Char}
    (row_mem : row ∈ outline.rows) : IsOneLine row := by
  have old_one_line := outline.oldPath.isOneLine
  have new_one_line := outline.newPath.isOneLine
  rw [rows, markerRows, List.mem_cons, List.mem_append, List.mem_pair] at row_mem
  rcases row_mem with rfl | (rfl | rfl) | in_hunks
  · unfold headerRow
    simp only [isOneLine_append_iff, old_one_line, new_one_line]
    simp [IsOneLine]
  · refine Side.isOneLine_markerRow .old ?_
    split <;> simp [old_one_line]
  · refine Side.isOneLine_markerRow .new ?_
    split <;> simp [new_one_line]
  · obtain ⟨hunk, -, row_mem⟩ := List.mem_flatMap.mp in_hunks
    exact HunkOutline.isOneLine_of_mem_rows row_mem

/-! ## Reading what was written -/

theorem FileOutline.mapM_read_toSection (outlines : List FileOutline) :
    (outlines.map toSection).mapM FileSection.read = .ok (outlines.map file) := by
  induction outlines with
  | nil => rfl
  | cons outline outlines induction =>
      have read_ok : outline.toSection.read = .ok outline.file :=
        (FileSection.read_eq_ok_iff _ _).mpr ⟨outline.fits_toSection, outline.file_toSection.symm⟩
      rw [List.map_cons, List.mapM_cons, read_ok, induction]
      rfl

theorem FileOutline.filesOf_flatMap_rows (outlines : List FileOutline) :
    filesOf (outlines.flatMap rows) = .ok (outlines.map file) := by
  have cut : ∀ fileSection ∈ outlines.map toSection, fileSection.IsCut := by
    intro fileSection section_mem
    obtain ⟨outline, -, rfl⟩ := List.mem_map.mp section_mem
    exact outline.isCut_toSection
  have rows_eq : (outlines.map toSection).flatMap FileSection.rows = outlines.flatMap rows := by
    rw [List.flatMap_map]
    exact List.flatMap_congr fun outline _ => outline.rows_toSection
  rw [← rows_eq, filesOf, DiffSections.map_allFiles_foldlM_rows cut, mapM_read_toSection]
  rfl

/-- The rows of one file are read from a text in which line feeds stand between them. -/
theorem Diff.exists_read_intercalate {outline : FileOutline} {rows : List String}
    (rows_eq : rows.map String.toList = outline.rows) :
    ∃ reading, read ("\n".intercalate rows) = .ok reading ∧
      reading.diff.files = [outline.file] := by
  have text_eq : ("\n".intercalate rows).toList = joinLines outline.rows := by
    rw [← rows_eq]
    exact String.toList_intercalate
  rw [← filesOf_lines_eq_ok_iff, text_eq, lines_joinLines_of_isOneLine
    (fun row => FileOutline.isOneLine_of_mem_rows) (List.cons_ne_nil _ _)]
  simpa using FileOutline.filesOf_flatMap_rows [outline]

/-- Written files are read again, one by one and with all their hunks, whatever breaks end the
rows. -/
theorem Diff.read_write (outlines : List FileOutline) (breaks : Nat → LineBreak)
    (ending : Option LineBreak) :
    (read (write outlines breaks ending)).map DiffReading.diff =
      .ok { files := outlines.map FileOutline.file } := by
  have one_line : ∀ row ∈ outlines.flatMap FileOutline.rows, IsOneLine row := by
    intro row row_mem
    obtain ⟨outline, -, row_mem⟩ := List.mem_flatMap.mp row_mem
    exact FileOutline.isOneLine_of_mem_rows row_mem
  obtain ⟨blanks, lines_eq, all_blank⟩ := exists_lines_layOut one_line breaks ending
  have noise : ∀ row ∈ blanks, IsNoise row := by
    intro row row_mem
    rw [all_blank row row_mem]
    exact isNoise_nil
  rw [map_diff_read, write, String.toList_ofList, lines_eq, filesOf_append_of_isNoise noise,
    FileOutline.filesOf_flatMap_rows]
  rfl

end DiffReview
