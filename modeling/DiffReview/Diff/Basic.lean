/-!
# Diffs

A diff is a list of files, a file a list of hunks, a hunk a list of lines.  A line carries the
numbers it has: an added line its number in the new revision, a removed line its number in the old
one, a context line both.
-/

namespace DiffReview

/-- One line of a hunk, without its sigil. -/
inductive Line
  /-- A line of the new revision only. -/
  | added (content : String) (newNumber : Nat)
  /-- A line of the old revision only. -/
  | removed (content : String) (oldNumber : Nat)
  /-- A line of both revisions. -/
  | context (content : String) (oldNumber newNumber : Nat)
deriving DecidableEq, Repr, Inhabited

namespace Line

/-- The text after the sigil. -/
def content : Line → String
  | added content _ => content
  | removed content _ => content
  | context content _ _ => content

/-- The character that marks the kind of a line. -/
def sigil : Line → Char
  | added .. => '+'
  | removed .. => '-'
  | context .. => ' '

/-- The number in the old revision, which an added line lacks. -/
def oldNumber? : Line → Option Nat
  | added .. => none
  | removed _ oldNumber => some oldNumber
  | context _ oldNumber _ => some oldNumber

/-- The number in the new revision, which a removed line lacks. -/
def newNumber? : Line → Option Nat
  | added _ newNumber => some newNumber
  | removed .. => none
  | context _ _ newNumber => some newNumber

/-- Whether the line stands in the new revision only. -/
def isAdded : Line → Bool
  | added .. => true
  | _ => false

/-- Whether the line stands in the old revision only. -/
def isRemoved : Line → Bool
  | removed .. => true
  | _ => false

/-- The line as a diff shows it. -/
def render (line : Line) : String :=
  String.ofList (line.sigil :: line.content.toList)

end Line

/-- A block of lines under one hunk header. -/
structure Hunk where
  /-- The header line, verbatim. -/
  header : String
  /-- The number of the first line in the old revision. -/
  oldStart : Nat
  /-- The number of old lines that the header declares. -/
  oldCount : Nat
  /-- The number of the first line in the new revision. -/
  newStart : Nat
  /-- The number of new lines that the header declares. -/
  newCount : Nat
  /-- The lines that follow the header. -/
  lines : List Line := []
deriving DecidableEq, Repr, Inhabited

namespace Hunk

/-- The added lines with their new numbers, in order. -/
def addedLines (hunk : Hunk) : List (String × Nat) :=
  hunk.lines.filterMap fun
    | .added content newNumber => some (content, newNumber)
    | _ => none

/-- The hunk as a diff shows it. -/
def render (hunk : Hunk) : String :=
  "\n".intercalate (hunk.header :: hunk.lines.map Line.render)

theorem length_addedLines (hunk : Hunk) :
    hunk.addedLines.length = hunk.lines.countP Line.isAdded := by
  rw [addedLines]
  induction hunk.lines with
  | nil => rfl
  | cons line lines induction =>
      cases line <;> simp [List.countP_cons, Line.isAdded, induction]

end Hunk

/-- How a file changed between the two revisions. -/
inductive FileStatus
  | added
  | modified
  | deleted
  | renamed
deriving DecidableEq, Repr, Inhabited

namespace FileStatus

/-- The word for a status. -/
def name : FileStatus → String
  | added => "added"
  | modified => "modified"
  | deleted => "deleted"
  | renamed => "renamed"

end FileStatus

/-- The changes of one file. -/
structure FileDiff where
  /-- The path in the new revision. -/
  filename : String
  /-- How the file changed. -/
  status : FileStatus
  /-- The path in the old revision, where it differs. -/
  oldFilename : Option String := none
  /-- The changed blocks, in order. -/
  hunks : List Hunk := []
deriving DecidableEq, Repr, Inhabited

namespace FileDiff

/-- The added lines with their new numbers, in order. -/
def addedLines (file : FileDiff) : List (String × Nat) :=
  file.hunks.flatMap Hunk.addedLines

/-- The lines of all hunks, in order. -/
def lines (file : FileDiff) : List Line :=
  file.hunks.flatMap Hunk.lines

/-- The number of added lines. -/
def additions (file : FileDiff) : Nat :=
  file.lines.countP Line.isAdded

/-- The number of removed lines. -/
def deletions (file : FileDiff) : Nat :=
  file.lines.countP Line.isRemoved

/-- The number of changed lines. -/
def churn (file : FileDiff) : Nat :=
  file.additions + file.deletions

/-- The hunks as a diff shows them. -/
def patch (file : FileDiff) : String :=
  "\n".intercalate (file.hunks.map Hunk.render)

theorem length_addedLines (file : FileDiff) : file.addedLines.length = file.additions := by
  rw [addedLines, additions, lines, List.length_flatMap, List.countP_flatMap]
  simp only [Hunk.length_addedLines]
  rfl

end FileDiff

/-- The changes between two revisions. -/
structure Diff where
  /-- The changed files, in order; a path may occur more than once. -/
  files : List FileDiff := []
deriving DecidableEq, Repr, Inhabited

namespace Diff

/-- The number of added lines. -/
def additions (diff : Diff) : Nat :=
  (diff.files.flatMap FileDiff.lines).countP Line.isAdded

/-- The number of removed lines. -/
def deletions (diff : Diff) : Nat :=
  (diff.files.flatMap FileDiff.lines).countP Line.isRemoved

/-- Whether any line is added. -/
def hasAdditions (diff : Diff) : Bool :=
  0 < diff.additions

/-- The new paths of the files, in order. -/
def filenames (diff : Diff) : List String :=
  diff.files.map FileDiff.filename

theorem hasAdditions_of_mem {diff : Diff} {file : FileDiff} (file_mem : file ∈ diff.files)
    {line : String × Nat} (line_mem : line ∈ file.addedLines) : diff.hasAdditions = true := by
  have positive : 0 < file.additions := by
    rw [← file.length_addedLines]
    exact List.length_pos_of_mem line_mem
  obtain ⟨added, added_mem, isAdded⟩ := List.countP_pos_iff.mp positive
  have total_positive : 0 < diff.additions :=
    List.countP_pos_iff.mpr ⟨added, List.mem_flatMap_of_mem file_mem added_mem, isAdded⟩
  simpa [hasAdditions] using total_positive

end Diff

end DiffReview
