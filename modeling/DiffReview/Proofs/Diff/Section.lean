import DiffReview.Diff.Reader
import DiffReview.Proofs.Diff.Header

/-!
# The grammar of a diff

The lines of a diff fall into sections at two levels: a file section starts at each file header, and
within it a hunk section at each hunk header.  What a section says depends on its own lines alone.
Each text has such a cut, and here it is told what diff the cut stands for.
-/

namespace DiffReview

open Text

/-! ## Lines of a hunk -/

/-- The kind of a line in a hunk. -/
inductive LineKind
  | added
  | removed
  | context
deriving DecidableEq, Repr

namespace LineKind

/-- The kind and the content of a row that starts with a sigil. -/
def ofRow? : List Char → Option (LineKind × String)
  | '+' :: content => some (added, String.ofList content)
  | '-' :: content => some (removed, String.ofList content)
  | ' ' :: content => some (context, String.ofList content)
  | _ => none

/-- Whether a row starts with a sigil. -/
def marks (row : List Char) : Bool :=
  (ofRow? row).isSome

/-- Whether lines of this kind stand in the old revision. -/
def inOld : LineKind → Bool
  | added => false
  | _ => true

/-- Whether lines of this kind stand in the new revision. -/
def inNew : LineKind → Bool
  | removed => false
  | _ => true

/-- The line of this kind at the given numbers of the two revisions. -/
def line (content : String) (oldNumber newNumber : Nat) : LineKind → Line
  | added => .added content newNumber
  | removed => .removed content oldNumber
  | context => .context content oldNumber newNumber

end LineKind

/-- The lines with their numbers: each revision is numbered from its start, and a line counts in the
revisions in which it stands. -/
def numbered (oldStart newStart : Nat) (entries : List (LineKind × String)) : List Line :=
  entries.mapIdx fun index (kind, content) =>
    kind.line content
      (oldStart + (entries.take index).countP fun entry => entry.1.inOld)
      (newStart + (entries.take index).countP fun entry => entry.1.inNew)

theorem numbered_cons (oldStart newStart : Nat) (kind : LineKind) (content : String)
    (entries : List (LineKind × String)) :
    numbered oldStart newStart ((kind, content) :: entries) =
      kind.line content oldStart newStart ::
        numbered (oldStart + if kind.inOld then 1 else 0) (newStart + if kind.inNew then 1 else 0)
          entries := by
  simp only [numbered, List.mapIdx_cons, List.take_zero, List.countP_nil, Nat.add_zero,
    List.take_succ_cons, List.countP_cons]
  congr 2
  funext index entry
  congr 1 <;> omega

/-! ## Sections -/

/-- A hunk header with the rows up to the next header. -/
structure HunkSection where
  /-- The header row. -/
  row : List Char
  /-- What the header row says. -/
  header : HunkHeader
  /-- The rows below the header. -/
  body : List (List Char)

/-- A file header with the rows up to the next file header. -/
structure FileSection where
  /-- The header row. -/
  row : List Char
  /-- What the header row says. -/
  header : FileHeader
  /-- The rows before the first hunk. -/
  preamble : List (List Char)
  /-- The hunks. -/
  hunks : List HunkSection

/-- The rows of a diff, cut into sections. -/
structure DiffSections where
  /-- The rows before the first file header. -/
  preface : List (List Char)
  /-- The files. -/
  files : List FileSection

/-! ## Sections as cuts of the rows -/

namespace HunkSection

/-- The rows of the section. -/
def rows (hunk : HunkSection) : List (List Char) :=
  hunk.row :: hunk.body

/-- The section starts at a hunk header and has no other one. -/
structure IsCut (hunk : HunkSection) : Prop where
  /-- The section starts with its header. -/
  heads : hunk.header.Heads hunk.row
  /-- No row below is a hunk header. -/
  body : ∀ row ∈ hunk.body, ¬IsHunkHeader row

end HunkSection

namespace FileSection

/-- The rows below the file header. -/
def below (file : FileSection) : List (List Char) :=
  file.preamble ++ file.hunks.flatMap HunkSection.rows

/-- The rows of the section. -/
def rows (file : FileSection) : List (List Char) :=
  file.row :: file.below

/-- The section starts at a file header, has no other one, and is cut at each hunk header. -/
structure IsCut (file : FileSection) : Prop where
  /-- The section starts with its header. -/
  heads : file.header.Heads file.row
  /-- No row below is a file header. -/
  below : ∀ row ∈ file.below, ¬IsFileHeader row
  /-- No row before the first hunk is a hunk header. -/
  preamble : ∀ row ∈ file.preamble, ¬IsHunkHeader row
  /-- The hunks are cut at each hunk header. -/
  hunks : ∀ hunk ∈ file.hunks, hunk.IsCut

theorem row_mem_rows {file : FileSection} {hunk : HunkSection} (hunk_mem : hunk ∈ file.hunks) :
    hunk.row ∈ file.rows := by
  have in_hunks : hunk.row ∈ file.hunks.flatMap HunkSection.rows :=
    List.mem_flatMap_of_mem hunk_mem List.mem_cons_self
  exact List.mem_cons_of_mem file.row (List.mem_append_right file.preamble in_hunks)

end FileSection

namespace DiffSections

/-- The sections are the given rows, cut at each file header and, within files, at each hunk
header. -/
structure IsCutOf (sections : DiffSections) (rows : List (List Char)) : Prop where
  /-- The rows of the sections are all rows. -/
  rows_eq : rows = sections.preface ++ sections.files.flatMap FileSection.rows
  /-- No row before the first file is a file header. -/
  preface : ∀ row ∈ sections.preface, ¬IsFileHeader row
  /-- The files are cut at each header. -/
  files : ∀ file ∈ sections.files, file.IsCut

theorem IsCutOf.mem_of_mem_rows {sections : DiffSections} {rows : List (List Char)}
    (cut : sections.IsCutOf rows) {file : FileSection} (file_mem : file ∈ sections.files)
    {row : List Char} (row_mem : row ∈ file.rows) : row ∈ rows := by
  rw [cut.rows_eq]
  exact List.mem_append_right _ (List.mem_flatMap_of_mem file_mem row_mem)

end DiffSections

/-! ## What sections say -/

namespace RangeDigits

/-- The number of the first line. -/
def startValue (range : RangeDigits) : Nat :=
  digitsValue range.start

/-- The number of lines, which is one where it is not given. -/
def countValue (range : RangeDigits) : Nat :=
  range.count.elim 1 digitsValue

/-- Neither number has too many digits. -/
def Fits (range : RangeDigits) : Prop :=
  range.start.length ≤ maxDigits ∧ ∀ count ∈ range.count, count.length ≤ maxDigits

end RangeDigits

namespace HunkSection

/-- The rows that start with a sigil. -/
def entries (hunk : HunkSection) : List (LineKind × String) :=
  hunk.body.filterMap LineKind.ofRow?

/-- The hunk that the section stands for. -/
def hunk (hunk : HunkSection) : Hunk where
  header := String.ofList hunk.row
  oldStart := hunk.header.old.startValue
  oldCount := hunk.header.old.countValue
  newStart := hunk.header.new.startValue
  newCount := hunk.header.new.countValue
  lines := numbered hunk.header.old.startValue hunk.header.new.startValue hunk.entries

/-- No number of the header has too many digits. -/
def Fits (hunk : HunkSection) : Prop :=
  hunk.header.old.Fits ∧ hunk.header.new.Fits

end HunkSection

namespace FileSection

/-- The status that a marker gives to its file: added if there is no old file, deleted if there is
no new one. -/
def markedStatus? (row : List Char) : Option FileStatus :=
  if Side.old.NamesNothing row then some .added
  else if Side.new.NamesNothing row then some .deleted
  else none

/-- The status of the file: that of the last marker, or else what the paths say. -/
def status (file : FileSection) : FileStatus :=
  (file.preamble.filterMap markedStatus?).getLast?.getD
    (if file.header.oldPath = file.header.newPath then .modified else .renamed)

/-- The file that the section stands for. -/
def file (file : FileSection) : FileDiff where
  filename := String.ofList file.header.newPath
  status := file.status
  oldFilename :=
    if file.header.oldPath = file.header.newPath then none
    else some (String.ofList file.header.oldPath)
  hunks := file.hunks.map HunkSection.hunk

/-- The rows of all hunks without their headers. -/
def bodies (file : FileSection) : List (List Char) :=
  file.hunks.flatMap HunkSection.body

/-- No number of a hunk header has too many digits. -/
def Fits (file : FileSection) : Prop :=
  ∀ hunk ∈ file.hunks, hunk.Fits

end FileSection

namespace DiffSections

/-- The diff that the sections stand for, with the number of rows outside all files or without a
sigil in a hunk. -/
def reading (sections : DiffSections) : DiffReading where
  diff := { files := sections.files.map FileSection.file }
  skipped := sections.preface.length +
    (sections.files.flatMap FileSection.bodies).countP fun row => !LineKind.marks row

/-- No number of a hunk header has too many digits. -/
def Fits (sections : DiffSections) : Prop :=
  ∀ file ∈ sections.files, file.Fits

end DiffSections

/-! ## Every text has a cut -/

private theorem exists_hunk_cut (rows : List (List Char)) :
    ∃ (preamble : List (List Char)) (hunks : List HunkSection),
      rows = preamble ++ hunks.flatMap HunkSection.rows ∧
        (∀ row ∈ preamble, ¬IsHunkHeader row) ∧ ∀ hunk ∈ hunks, hunk.IsCut := by
  induction rows with
  | nil => exact ⟨[], [], rfl, by simp, by simp⟩
  | cons row rows induction =>
      obtain ⟨preamble, hunks, rfl, preamble_plain, hunks_cut⟩ := induction
      by_cases isHeader : IsHunkHeader row
      · obtain ⟨header, heads⟩ := isHeader
        refine ⟨[], ⟨row, header, preamble⟩ :: hunks, by simp [HunkSection.rows], by simp, ?_⟩
        rw [List.forall_mem_cons]
        exact ⟨⟨heads, preamble_plain⟩, hunks_cut⟩
      · refine ⟨row :: preamble, hunks, rfl, ?_, hunks_cut⟩
        rw [List.forall_mem_cons]
        exact ⟨isHeader, preamble_plain⟩

theorem DiffSections.exists_isCutOf (rows : List (List Char)) :
    ∃ sections : DiffSections, sections.IsCutOf rows := by
  induction rows with
  | nil => exact ⟨⟨[], []⟩, rfl, by simp, by simp⟩
  | cons row rows induction =>
      obtain ⟨⟨preface, files⟩, rfl, preface_plain, files_cut⟩ := induction
      by_cases isHeader : IsFileHeader row
      · obtain ⟨header, heads⟩ := isHeader
        obtain ⟨preamble, hunks, preface_eq, preamble_plain, hunks_cut⟩ := exists_hunk_cut preface
        refine ⟨⟨[], ⟨row, header, preamble, hunks⟩ :: files⟩, ?_, by simp, ?_⟩
        · simp [FileSection.rows, FileSection.below, ← preface_eq]
        · simp only [List.forall_mem_cons]
          exact ⟨⟨heads, by simpa [FileSection.below, ← preface_eq] using preface_plain,
            preamble_plain, hunks_cut⟩, files_cut⟩
      · refine ⟨⟨row :: preface, files⟩, rfl, ?_, files_cut⟩
        simp only [List.forall_mem_cons]
        exact ⟨isHeader, preface_plain⟩

end DiffReview
