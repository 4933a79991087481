import DiffReview.Diff.Basic
import DiffReview.Diff.Header

/-!
# Reading a diff

`Diff.read` goes through the lines of a text once.  Lines before the first file header, and lines
inside a hunk that have no sigil, are counted and otherwise ignored; lines between a file header
and its first hunk are ignored unless they are markers.  Reading fails only where a hunk header has
a number of too many digits.
-/

namespace DiffReview

open Text

/-- A hunk that may still grow, with the numbers that its next lines will have. -/
structure OpenHunk where
  /-- The header line, verbatim. -/
  header : String
  /-- The numbers of the header. -/
  range : HunkRange
  /-- The lines read so far, the last one first. -/
  reversed : List Line := []
  /-- The next number in the old revision. -/
  nextOld : Nat
  /-- The next number in the new revision. -/
  nextNew : Nat
deriving Repr

namespace OpenHunk

/-- The hunk that a header line opens. -/
def ofHeader (line : List Char) (range : HunkRange) : OpenHunk where
  header := String.ofList line
  range := range
  nextOld := range.oldStart
  nextNew := range.newStart

/-- The hunk with all its lines. -/
def close (state : OpenHunk) : Hunk where
  header := state.header
  oldStart := state.range.oldStart
  oldCount := state.range.oldCount
  newStart := state.range.newStart
  newCount := state.range.newCount
  lines := state.reversed.reverse

/-- The hunk after one more line, if the line has a sigil. -/
def push? (state : OpenHunk) : List Char → Option OpenHunk
  | '+' :: content =>
    some
      { state with
        reversed := .added (String.ofList content) state.nextNew :: state.reversed
        nextNew := state.nextNew + 1 }
  | '-' :: content =>
    some
      { state with
        reversed := .removed (String.ofList content) state.nextOld :: state.reversed
        nextOld := state.nextOld + 1 }
  | ' ' :: content =>
    some
      { state with
        reversed :=
          .context (String.ofList content) state.nextOld state.nextNew :: state.reversed
        nextOld := state.nextOld + 1
        nextNew := state.nextNew + 1 }
  | _ => none

end OpenHunk

/-- A file whose last hunk may still grow. -/
structure OpenFile where
  /-- The file with the hunks that are complete. -/
  file : FileDiff
  /-- The hunk being read. -/
  hunk : Option OpenHunk := none
deriving Repr

namespace OpenFile

/-- The file that a header opens. -/
def ofHeader (header : FileHeader) : OpenFile where
  file :=
    if header.oldPath = header.newPath then
      { filename := String.ofList header.newPath, status := .modified }
    else
      { filename := String.ofList header.newPath
        status := .renamed
        oldFilename := some (String.ofList header.oldPath) }

/-- The file with all its hunks. -/
def close (state : OpenFile) : FileDiff :=
  { state.file with hunks := state.file.hunks ++ (state.hunk.map OpenHunk.close).toList }

/-- The file after a line that opens a hunk. -/
def openHunk (state : OpenFile) (line : List Char) (range : HunkRange) : OpenFile where
  file := state.close
  hunk := some (OpenHunk.ofHeader line range)

/-- The file after a line between its header and its first hunk. -/
def readPreamble (state : OpenFile) (line : List Char) : OpenFile :=
  if Side.old.isAbsent line then
    { state with file.status := .added }
  else if Side.new.isAbsent line then
    { state with file.status := .deleted }
  else
    state

end OpenFile

/-- What has been read so far. -/
structure ReadState where
  /-- The files that are complete. -/
  files : List FileDiff := []
  /-- The file being read. -/
  current : Option OpenFile := none
  /-- The number of lines that could not be placed. -/
  skipped : Nat := 0
deriving Repr

namespace ReadState

/-- The files read so far, the current one included. -/
def allFiles (state : ReadState) : List FileDiff :=
  state.files ++ (state.current.map OpenFile.close).toList

/-- The state after a file header. -/
def openFile (state : ReadState) (header : FileHeader) : ReadState :=
  { state with files := state.allFiles, current := some (OpenFile.ofHeader header) }

/-- The state after a line that could not be placed. -/
def skip (state : ReadState) : ReadState :=
  { state with skipped := state.skipped + 1 }

/-- The state after a line of the given file that is no file header. -/
def readInFile (state : ReadState) (file : OpenFile) (line : List Char) :
    Except DigitLimitError ReadState :=
  match HunkHeader.ofLine? line with
  | some header => do
    let range ← header.numbers
    return { state with current := some (file.openHunk line range) }
  | none =>
    match file.hunk with
    | none => .ok { state with current := some (file.readPreamble line) }
    | some hunk =>
      match hunk.push? line with
      | some hunk => .ok { state with current := some { file with hunk := some hunk } }
      | none => .ok state.skip

/-- The state after one more line. -/
def read (state : ReadState) (line : List Char) : Except DigitLimitError ReadState :=
  match FileHeader.ofLine? line with
  | some header => .ok (state.openFile header)
  | none =>
    match state.current with
    | none => .ok state.skip
    | some file => state.readInFile file line

end ReadState

/-- A diff with the number of lines that could not be placed. -/
structure DiffReading where
  /-- The diff. -/
  diff : Diff
  /-- The number of lines that could not be placed. -/
  skipped : Nat
deriving DecidableEq, Repr

namespace Diff

/-- Reads the text of a diff. -/
def read (text : String) : Except DigitLimitError DiffReading := do
  let state ← (lines text.toList).foldlM ReadState.read {}
  return { diff := { files := state.allFiles }, skipped := state.skipped }

end Diff

end DiffReview
