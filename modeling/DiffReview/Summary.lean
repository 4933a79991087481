import DiffReview.Diff.Basic
import DiffReview.Path
import DiffReview.Summary.Window
import DiffReview.Text.Decimal

/-!
# Summaries

The summary of a diff is the text that a chat model is shown.  It has one section for each file
worth reviewing, the most important files first.  A section shows every added line with its number
and a window of lines around it; a line of dots stands for what is left out between two windows.
The summary is cut after a given number of lines, and then says how many more there are.
-/

namespace DiffReview

open Text

/-- How much a summary shows. -/
structure SummaryOptions where
  /-- How many lines are shown before and after an added line. -/
  contextLines : Int := 3
  /-- After how many lines the summary is cut. -/
  maxLines : Int := 400
deriving DecidableEq, Repr

/-- Whether a file is worth reviewing: it still exists, gained a line, and is not left out. -/
def FileDiff.isReviewable (file : FileDiff) : Bool :=
  file.status != .deleted && 0 < file.additions && !Path.isExcluded file.filename

/-- The files worth reviewing, by tier and then in the order of the diff. -/
def Diff.reviewableFiles (diff : Diff) : List FileDiff :=
  let files := diff.files.filter FileDiff.isReviewable
  Path.Tier.all.flatMap fun tier => files.filter fun file => Path.tier file.filename == tier

namespace Summary

/-- A text with spaces before it up to the given width. -/
def padStart (width : Nat) (text : List Char) : List Char :=
  List.replicate (width - text.length) ' ' ++ text

/-- A line with its sigil and its number in the new revision, which a removed line lacks. -/
def showLine (line : Line) : Except DigitLimitError String := do
  let number ← match line.newNumber? with
    | some number => writeNumber number
    | none => .ok []
  return String.ofList (line.sigil :: padStart 5 number ++ " | ".toList ++ line.content.toList)

/-- The line that stands for what is left out. -/
def gap : String := "..."

/-- The shown lines with a gap wherever two indices are not consecutive; `previous` is the index
shown last. -/
def showFrom (previous : Option Nat) : List (Line × Nat) → Except DigitLimitError (List String)
  | [] => .ok []
  | (line, index) :: rest => do
    let shown ← showLine line
    let others ← showFrom (some index) rest
    if previous.any fun last => index != last + 1 then
      return gap :: shown :: others
    else
      return shown :: others

/-- The shown part of a hunk. -/
def showHunk (contextLines : Int) (hunk : Hunk) : Except DigitLimitError (List String) :=
  showFrom none (shownLines contextLines hunk.lines)

/-- The line that opens the section of a file. -/
def sectionHeader (file : FileDiff) : String :=
  s!"--- File: {file.filename} ({file.status.name}) ---"

/-- The section of a file: its header, and each hunk of which anything is shown. -/
def fileSection (contextLines : Int) (file : FileDiff) : Except DigitLimitError (List String) := do
  let parts ← file.hunks.mapM fun hunk => do
    let shown ← showHunk contextLines hunk
    return if shown.isEmpty then [] else hunk.header :: shown
  return sectionHeader file :: parts.flatten

/-- The sections of the files worth reviewing. -/
def sections (contextLines : Int) (diff : Diff) : Except DigitLimitError (List (List String)) :=
  diff.reviewableFiles.mapM (fileSection contextLines)

/-- The part of a summary that has been laid out. -/
structure Layout where
  /-- The lines so far. -/
  lines : List String := []
  /-- How many lines had no room. -/
  omitted : Nat := 0
deriving DecidableEq, Repr

/-- The layout after one more section and the blank line behind it; once a line has been left out,
all that follow are. -/
def Layout.add (maxLines : Int) (layout : Layout) (rows : List String) : Layout :=
  if 0 < layout.omitted ∨ maxLines ≤ layout.lines.length then
    { layout with omitted := layout.omitted + rows.length }
  else
    let room := (maxLines - layout.lines.length).toNat
    { lines := layout.lines ++ rows.take room ++ [""], omitted := rows.length - room }

/-- The wording of the line that ends a summary from which lines were left out. -/
def noticeText (omitted maxLines : String) : String :=
  s!"[diff truncated: {omitted} more line(s) omitted to stay within {maxLines} lines]"

/-- The line that ends a summary from which lines were left out. -/
def truncationNotice (omitted : Nat) (maxLines : Int) : Except DigitLimitError String := do
  let omittedDigits ← writeNumber omitted
  let limitDigits ← writeInteger maxLines
  return noticeText (String.ofList omittedDigits) (String.ofList limitDigits)

/-- The lines of a layout without blank lines at the end, and the notice if it is due. -/
def Layout.finish (maxLines : Int) (layout : Layout) : Except DigitLimitError (List String) := do
  let lines := (layout.lines.reverse.dropWhile String.isEmpty).reverse
  if layout.omitted = 0 then
    return lines
  else
    let notice ← truncationNotice layout.omitted maxLines
    return lines ++ [notice]

/-- The sections laid out within the given number of lines. -/
def layOut (maxLines : Int) (parts : List (List String)) : Except DigitLimitError (List String) :=
  (parts.foldl (Layout.add maxLines) {}).finish maxLines

end Summary

/-- The summary of a diff; it is empty if nothing is worth reviewing. -/
def Diff.summary (options : SummaryOptions) (diff : Diff) : Except DigitLimitError String := do
  let parts ← Summary.sections options.contextLines diff
  let lines ← Summary.layOut options.maxLines parts
  return "\n".intercalate lines

end DiffReview
