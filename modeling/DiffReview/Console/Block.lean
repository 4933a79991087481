import DiffReview.Console.Markup
import DiffReview.Console.Table

/-!
# Blocks

What is shown on a console is a list of blocks: rules with a title, paragraphs and tables.  A
block is laid out in lines for a console of a given width.
-/

namespace DiffReview.Console

/-- A block of console output. -/
inductive Block
  /-- A horizontal line with a title in its middle. -/
  | rule (title : List Span)
  /-- Text. -/
  | paragraph (spans : List Span)
  /-- A table with the titles of its columns and its rows. -/
  | table (columns : List String) (rows : List (List Span))
deriving DecidableEq, Repr

/-- A title between two lines that fill the width; of two unequal ones, the right one is longer.  A
title that leaves no room for the lines is abridged, or left out where there is no room for it. -/
def ruleLine (size : Nat) (title : List Char) : List Char :=
  if size ≤ 4 then
    List.replicate size '─'
  else
    let title := abridge (size - 4) title
    let left := (size - width title) / 2 - 1
    let right := size - left - (width title + 2)
    List.replicate left '─' ++ ' ' :: title ++ ' ' :: List.replicate right '─'

namespace Block

/-- The lines of a block on a console of the given width. -/
def lines (size : Nat) : Block → List (List Char)
  | rule title => [ruleLine size (shownSpans title)]
  | paragraph spans => wrap size .folded (shownSpans spans)
  | table columns rows =>
    tableLines size (columns.map String.toList) (rows.map fun row => row.map fun span =>
      shownSpans [span])

end Block

/-- What blocks look like on a console of the given width.  One without cells shows nothing. -/
def layOut (size : Nat) (blocks : List Block) : String :=
  if size = 0 then
    ""
  else
    String.ofList ((blocks.flatMap (Block.lines size)).flatMap (· ++ ['\n']))

end DiffReview.Console
