import DiffReview.Console.Width
import DiffReview.Text.Blank

/-!
# Lines of a given width

A text is cut into lines between words, such that each line fits in a given number of cells if its
words do.  Blanks at the end of a line go beyond it as long as they are not in the way.
-/

namespace DiffReview.Console

open Text

/-! ## Tabs -/

/-- How many cells apart the places are to which tabs lead. -/
def tabDistance : Nat := 8

/-- Texts joined by tabs, written with spaces, after some number of cells. -/
def joinByTabs : Nat → List (List Char) → List Char
  | _, [] => []
  | _, [last] => last
  | start, text :: next :: rest =>
    let reached := start + width (text ++ [' '])
    let gap := (tabDistance - reached % tabDistance) % tabDistance
    text ++ ' ' :: List.replicate gap ' ' ++ joinByTabs (reached + gap) (next :: rest)

/-- A line with spaces for tabs. -/
def expandTabs (line : List Char) : List Char :=
  joinByTabs 0 (line.splitOn '\t')

/-! ## Words -/

/-- The words of a line with the blanks after them; the first one also has the blanks before it.  A
line of blanks has no words. -/
def spacedWords (line : List Char) : List (List Char) :=
  match line.splitBy fun left right => !(isBlank left && !isBlank right) with
  | first :: second :: rest =>
    if isBlankText first then (first ++ second) :: rest else first :: second :: rest
  | groups => groups.filter fun group => !isBlankText group

/-- What becomes of a word that is wider than a line. -/
inductive LongWord
  /-- It stands on a line of its own, and is cut there. -/
  | abridged
  /-- It goes on in the next lines. -/
  | folded
deriving DecidableEq, Repr

/-- Pieces of a text that fit in some number of cells, after the characters of a piece, given last
to first, and their width. -/
def piecesFrom (size : Nat) : List Char → Nat → List Char → List (List Char)
  | piece, _, [] => [piece.reverse]
  | piece, used, character :: rest =>
    let next := used + characterWidth character
    if next ≤ size then
      piecesFrom size (character :: piece) next rest
    else
      piece.reverse :: piecesFrom size [character] (characterWidth character) rest

/-- Pieces of a text that fit in some number of cells. -/
def pieces (size : Nat) (text : List Char) : List (List Char) :=
  piecesFrom size [] 0 text

/-! ## Lines -/

/-- Lines from last to first. -/
structure Stack where
  /-- The lines. -/
  lines : List (List Char) := []
  /-- How many cells the last line fills. -/
  used : Nat := 0

namespace Stack

/-- The lines with another one. -/
def start (stack : Stack) (word : List Char) : Stack where
  lines := word :: stack.lines
  used := width word

/-- The lines with a word at the end of the last one. -/
def extend (stack : Stack) (word : List Char) : Stack :=
  match stack.lines with
  | [] => stack.start word
  | last :: before => ⟨(last ++ word) :: before, stack.used + width word⟩

/-- The lines with a word where it fits. -/
def place (size : Nat) (long : LongWord) (stack : Stack) (word : List Char) : Stack :=
  let least := width (trimEnd isBlank word)
  if stack.used + least ≤ size then
    stack.extend word
  else if size < least ∧ long = .folded then
    (pieces size word).foldl start stack
  else
    stack.start word

end Stack

/-- A line without the blanks at its end that make it longer than it may be. -/
def trimBeyond (size : Nat) (line : List Char) : List Char :=
  let blanks := (line.reverse.takeWhile isBlank).length
  line.take (line.length - min blanks (line.length - size))

/-- The lines of a text that has no line feeds. -/
def wrapLine (size : Nat) (long : LongWord) (line : List Char) : List (List Char) :=
  let lines := match spacedWords line with
    | [] => [line]
    | words => (words.foldl (Stack.place size long) {}).lines.reverse
  lines.map fun line =>
    let line := trimBeyond size line
    match long with
    | .abridged => abridge size line
    | .folded => crop size line

/-- The lines of a text. -/
def wrap (size : Nat) (long : LongWord) (text : List Char) : List (List Char) :=
  (text.splitOn '\n').flatMap fun line => wrapLine size long (expandTabs line)

end DiffReview.Console
