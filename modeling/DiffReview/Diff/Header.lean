import DiffReview.Text.Blank
import DiffReview.Text.Decimal
import DiffReview.Text.Lines

/-!
# Header lines of a diff

Three kinds of line give a diff its structure: the header of a file, which names the two paths; the
marker lines after it, of which only one naming the null device matters; and the header of a hunk,
which gives the first line and the line count on either side.
-/

namespace DiffReview

open Text

/-- The two paths that a file header names. -/
structure FileHeader where
  /-- The path in the old revision. -/
  oldPath : List Char
  /-- The path in the new revision. -/
  newPath : List Char
deriving DecidableEq, Repr

namespace FileHeader

/-- Reads `diff --git a/OLD b/NEW`.  The old path is not empty and as short as possible, the new
path is not empty. -/
def ofLine? (line : List Char) : Option FileHeader := do
  let paths ← "diff --git a/".toList.isPrefixOf? line
  match paths with
  | [] => none
  | first :: rest =>
    let (old, new) ← cutAt? " b/".toList rest
    if new.isEmpty then none else some ⟨first :: old, new⟩

end FileHeader

/-- The side of a diff that a marker line speaks of. -/
inductive Side
  | old
  | new
deriving DecidableEq, Repr

namespace Side

/-- The characters that open a marker line of the side. -/
def marker : Side → List Char
  | old => "--- ".toList
  | new => "+++ ".toList

/-- The directory letter that a path of the side may carry. -/
def letter : Side → List Char
  | old => "a/".toList
  | new => "b/".toList

/-- Whether a line is the marker of the side and names the null device. -/
def isAbsent (side : Side) (line : List Char) : Bool :=
  match side.marker.isPrefixOf? line with
  | some path => trimEnd isBlank (dropMark side.letter path) == "/dev/null".toList
  | none => false

end Side

/-- The digits of a first line number and, if present, of a line count. -/
structure RangeDigits where
  /-- The digits of the first line number. -/
  start : List Char
  /-- The digits of the line count. -/
  count : Option (List Char)
deriving DecidableEq, Repr

namespace RangeDigits

/-- Reads `START` or `START,COUNT` and returns what follows. -/
def read? (text : List Char) : Option (RangeDigits × List Char) :=
  let start := text.takeWhile isDigit
  if start.isEmpty then
    none
  else
    match text.dropWhile isDigit with
    | ',' :: rest =>
      let count := rest.takeWhile isDigit
      if count.isEmpty then
        some (⟨start, none⟩, ',' :: rest)
      else
        some (⟨start, some count⟩, rest.dropWhile isDigit)
    | rest => some (⟨start, none⟩, rest)

end RangeDigits

/-- The two ranges that a hunk header gives. -/
structure HunkHeader where
  /-- The range in the old revision. -/
  old : RangeDigits
  /-- The range in the new revision. -/
  new : RangeDigits
deriving DecidableEq, Repr

/-- The four numbers of a hunk header. -/
structure HunkRange where
  /-- The number of the first line in the old revision. -/
  oldStart : Nat
  /-- The number of old lines. -/
  oldCount : Nat
  /-- The number of the first line in the new revision. -/
  newStart : Nat
  /-- The number of new lines. -/
  newCount : Nat
deriving DecidableEq, Repr

namespace HunkHeader

/-- Reads `@@ -OLD +NEW @@` with any text after it. -/
def ofLine? (line : List Char) : Option HunkHeader := do
  let text ← "@@ -".toList.isPrefixOf? line
  let (old, text) ← RangeDigits.read? text
  let text ← " +".toList.isPrefixOf? text
  let (new, text) ← RangeDigits.read? text
  let _ ← " @@".toList.isPrefixOf? text
  some ⟨old, new⟩

/-- The four numbers; the starts are read before the counts, and a missing count is one. -/
def numbers (header : HunkHeader) : Except DigitLimitError HunkRange := do
  let oldStart ← readDigits header.old.start
  let newStart ← readDigits header.new.start
  let oldCount ← readDigits (header.old.count.getD ['1'])
  let newCount ← readDigits (header.new.count.getD ['1'])
  return { oldStart, oldCount, newStart, newCount }

end HunkHeader

end DiffReview
