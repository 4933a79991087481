import DiffReview.Console.Wrap
import DiffReview.Number.Rounding

/-!
# Tables

A table has a column for each of its titles, with a space on both sides of what is in it, and lines
around the cells.  Where a table is too wide for the console, its widest columns get narrower.
-/

namespace DiffReview.Console

/-! ## Widths of columns -/

/-- Whether the width of a text is measured up to a character only. -/
def endsMeasure (character : Char) : Bool :=
  ['\n', '\x0b', '\x0c', '\x0d', '\x1c', '\x1d', '\x1e', '\u0085', '\u2028', '\u2029'].contains
    character

/-- The width that a text would like to have. -/
def naturalWidth (text : List Char) : Nat :=
  ((text.splitOnP endsMeasure).map width).foldl max 0

/-- The width of a column of some texts with a space on both sides, if there is room. -/
def columnWidth (room : Nat) (texts : List (List Char)) : Nat :=
  if room ≤ 2 then room else min room ((texts.map naturalWidth).foldl max 0 + 2)

/-- The widths where each of the widest columns, of which there are some, has lost the same share of
an excess, but no more than a limit; of what does not divide evenly, later ones lose more. -/
def narrow (widest limit : Nat) : Nat → Nat → List Nat → List Nat
  | _, _, [] => []
  | excess, count, width :: rest =>
    if width = widest then
      let loss := min limit (Number.roundQuotient excess count)
      (width - loss) :: narrow widest limit (excess - loss) (count - 1) rest
    else
      width :: narrow widest limit excess count rest

/-- The widths after some rounds, in each of which the widest columns get as narrow as the next ones
if that is needed to make room. -/
def shrink (room : Nat) : Nat → List Nat → List Nat
  | 0, widths => widths
  | rounds + 1, widths =>
    let excess := widths.sum - room
    if excess = 0 then
      widths
    else
      let widest := widths.foldl max 0
      let next := (widths.filter (· ≠ widest)).foldl max 0
      shrink room rounds
        (narrow widest (min excess (widest - next)) excess (widths.count widest) widths)

/-- The widths of columns, each given by its texts, on a console of the given width. -/
def columnWidths (size : Nat) (columns : List (List (List Char))) : List Nat :=
  let room := size - (columns.length + 1)
  shrink room (columns.length + 1) (columns.map (columnWidth room))

/-! ## Lines of a table -/

/-- A line of a table frame: for each column a bar, and the joints around the bars. -/
def frameLine (left joint right bar : Char) (widths : List Nat) : List Char :=
  left :: [joint].intercalate (widths.map fun width => List.replicate width bar) ++ [right]

/-- The lines of a cell of the given width, with a space on both sides of the text.  A cell without
room for more than the spaces has none. -/
def cellLines (width : Nat) (text : List Char) : List (List Char) :=
  if width ≤ 2 then
    []
  else
    (wrap (width - 2) .abridged text).map fun line => ' ' :: fit (width - 2) line ++ [' ']

/-- The lines of a row. -/
def rowLines (bar : Char) (widths : List Nat) (texts : List (List Char)) : List (List Char) :=
  let cells := (widths.zip texts).map fun (width, text) => (width, cellLines width text)
  let height := (cells.map fun cell => cell.2.length).foldl max 1
  (List.range height).map fun index =>
    bar :: cells.flatMap fun (width, lines) => lines.getD index (List.replicate width ' ') ++ [bar]

/-- The lines of a table on a console of the given width. -/
def tableLines (size : Nat) (titles : List (List Char)) (rows : List (List (List Char))) :
    List (List Char) :=
  let column (index : Nat) := (titles :: rows).filterMap fun row => row[index]?
  let widths := columnWidths size ((List.range titles.length).map column)
  let lines :=
    frameLine '┏' '┳' '┓' '━' widths :: rowLines '┃' widths titles ++
      frameLine '┡' '╇' '┩' '━' widths :: rows.flatMap (rowLines '│' widths) ++
      [frameLine '└' '┴' '┘' '─' widths]
  lines.map (crop size)

end DiffReview.Console
