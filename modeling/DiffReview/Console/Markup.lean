import DiffReview.Console.Emoji
import DiffReview.Text.Replace

/-!
# Markup

Text for a console may carry styles: a style stands in square brackets before a span and, after a
slash, behind it.  Where the text itself could be read as such a tag, its bracket is escaped.  What
is shown of markup has no tags, has pictures for their names, and lacks some control characters.
-/

namespace DiffReview.Console

/-- A piece of text with at most one style. -/
structure Span where
  /-- The text, as it is shown. -/
  text : String
  /-- The style. -/
  style : Option String := none
deriving DecidableEq, Repr

/-- Whether a character may follow the bracket that opens a tag. -/
def startsTag (character : Char) : Bool :=
  character.isLower || character == '#' || character == '/' || character == '@'

/-- Whether a text that follows an opening bracket makes it a tag: the tag is closed before
another bracket opens. -/
def isTagBody : List Char → Bool
  | [] => false
  | first :: rest =>
    startsTag first &&
      (rest.dropWhile fun character => character != '[' && character != ']').head? == some ']'

/-- A text with the tags in it escaped, after some backslashes.  A bracket that opens a tag is
escaped, and so is each backslash directly before it. -/
def escapeFrom : Nat → List Char → List Char
  | pending, [] => List.replicate pending '\\'
  | pending, character :: rest =>
    if character = '\\' then
      escapeFrom (pending + 1) rest
    else if character = '[' ∧ isTagBody rest then
      List.replicate (2 * pending + 1) '\\' ++ '[' :: escapeFrom 0 rest
    else
      List.replicate pending '\\' ++ character :: escapeFrom 0 rest

/-- Whether a text ends with exactly one backslash. -/
def endsWithOneBackslash (text : List Char) : Bool :=
  (text.reverse.takeWhile (· == '\\')).length == 1

/-- A text that shows as the given one where markup is read.  A single backslash at the end is
escaped, lest it escape what follows. -/
def escape (text : List Char) : List Char :=
  let escaped := escapeFrom 0 text
  if endsWithOneBackslash escaped then escaped ++ ['\\'] else escaped

namespace Span

/-- The markup of a span; the text of a span with a style is taken to be free of tags. -/
def markup (span : Span) : String :=
  match span.style with
  | some style => s!"[{style}]{span.text}[/{style}]"
  | none => String.ofList (escape span.text.toList)

end Span

/-- The markup of some spans. -/
def markup (spans : List Span) : String :=
  String.join (spans.map Span.markup)

/-! ## What is shown of markup -/

/-- A part of markup. -/
inductive Part
  /-- Text that is shown. -/
  | text (text : List Char)
  /-- A tag by what stands between its brackets. -/
  | tag (name : List Char)
deriving DecidableEq, Repr

/-- The text of a tag after its opening bracket, if there is a tag. -/
def tagName? (text : List Char) : Option (List Char) :=
  if isTagBody text then some (text.takeWhile (· ≠ ']')) else none

/-- The parts of markup after its first characters, as many as given, where some text, whose
characters are given last to first, and some backslashes precede it.  Of two backslashes before a
tag one is shown, and a single one makes the tag a text. -/
def partsFrom : List Char → Nat → Nat → List Char → List Part
  | before, pending, _, [] => [.text (before.reverse ++ List.replicate pending '\\')]
  | before, pending, skipped + 1, _ :: rest => partsFrom before pending skipped rest
  | before, pending, 0, character :: rest =>
    if character = '\\' then
      partsFrom before (pending + 1) 0 rest
    else
      match if character = '[' then tagName? rest else none with
      | none => partsFrom (character :: (List.replicate pending '\\' ++ before)) 0 0 rest
      | some name =>
        .text before.reverse :: .text (List.replicate (pending / 2) '\\') ::
          (if pending % 2 = 1 then .text ('[' :: name ++ [']']) else .tag name) ::
          partsFrom [] 0 (name.length + 1) rest

/-- The parts of markup. -/
def parts (markup : List Char) : List Part :=
  partsFrom [] 0 0 markup

/-- The control characters that are not shown: those that ring, step back or move the line. -/
def isDropped (character : Char) : Bool :=
  ['\x07', '\x08', '\x0b', '\x0c', '\x0d'].contains character

namespace Part

/-- What is shown of a part.  A backslash before a bracket that opens no tag is not. -/
def shown : Part → List Char
  | text characters =>
    (Emoji.replaceNames (Text.replaceAll ['\\', '['] ['['] characters)).filter (!isDropped ·)
  | tag _ => []

end Part

/-- What is shown of markup. -/
def shown (markup : List Char) : List Char :=
  (parts markup).flatMap Part.shown

/-- What is shown of some spans. -/
def shownSpans (spans : List Span) : List Char :=
  shown (markup spans).toList

end DiffReview.Console
