import DiffReview.Text.LetterCase
import DiffReview.Text.Word

/-!
# Patterns

Patterns over characters with sequence, choice, runs of one class of characters, and conditions on
places, such as word boundaries.  `Matches` says which pieces of a text a pattern matches; a
condition also looks at what stands before and after its place.
-/

namespace DiffReview

/-- A place in a text. -/
structure Cursor where
  /-- The character before the place. -/
  before : Option Char
  /-- The text after the place. -/
  rest : List Char
deriving DecidableEq, Repr

namespace Cursor

/-- The start of a text. -/
def start (text : List Char) : Cursor := ⟨none, text⟩

/-- Whether exactly one of the neighbouring characters is a word character. -/
def atBoundary (cursor : Cursor) : Bool :=
  cursor.before.any Text.isWordCharacter != cursor.rest.head?.any Text.isWordCharacter

/-- Whether nothing stands before the place. -/
def atStart (cursor : Cursor) : Bool :=
  cursor.before.isNone

/-- Whether nothing stands behind the place, or one line feed alone. -/
def atEnd (cursor : Cursor) : Bool :=
  cursor.rest == [] || cursor.rest == ['\n']

/-- The places of a text from a place on, the place itself included. -/
def placesFrom (before : Option Char) : List Char → List Cursor
  | [] => [⟨before, []⟩]
  | character :: rest => ⟨before, character :: rest⟩ :: placesFrom (some character) rest

end Cursor

/-- A pattern over characters. -/
inductive Pattern
  /-- The empty text. -/
  | empty
  /-- One character of a class. -/
  | one (accepts : Char → Bool)
  /-- Any number of characters of a class. -/
  | run (accepts : Char → Bool)
  /-- The empty text at certain places. -/
  | place (accepts : Cursor → Bool)
  /-- One pattern after another. -/
  | seq (first second : Pattern)
  /-- Either of two patterns. -/
  | alt (first second : Pattern)

namespace Pattern

/-- `Matches pattern start stop`: the pattern matches the text between the two places. -/
inductive Matches : Pattern → Cursor → Cursor → Prop
  | empty (cursor) : Matches .empty cursor cursor
  | one {accepts before character rest} (accepted : accepts character = true) :
      Matches (.one accepts) ⟨before, character :: rest⟩ ⟨some character, rest⟩
  | runNil {accepts} (cursor) : Matches (.run accepts) cursor cursor
  | runCons {accepts before character rest stop} (accepted : accepts character = true)
      (more : Matches (.run accepts) ⟨some character, rest⟩ stop) :
      Matches (.run accepts) ⟨before, character :: rest⟩ stop
  | place {accepts cursor} (accepted : accepts cursor = true) :
      Matches (.place accepts) cursor cursor
  | seq {first second start middle stop} (left : Matches first start middle)
      (right : Matches second middle stop) : Matches (.seq first second) start stop
  | altLeft {first second start stop} (left : Matches first start stop) :
      Matches (.alt first second) start stop
  | altRight {first second start stop} (right : Matches second start stop) :
      Matches (.alt first second) start stop

/-- A word character on one side only. -/
def boundary : Pattern :=
  .place Cursor.atBoundary

/-- The start of the text. -/
def textStart : Pattern :=
  .place Cursor.atStart

/-- The end of the text; a line feed at the very end is overlooked. -/
def textEnd : Pattern :=
  .place Cursor.atEnd

/-- The pattern or the empty text. -/
def optional (pattern : Pattern) : Pattern :=
  .alt pattern .empty

/-- One or more characters of a class. -/
def someOf (accepts : Char → Bool) : Pattern :=
  .seq (.one accepts) (.run accepts)

/-- Patterns one after another. -/
def sequence (patterns : List Pattern) : Pattern :=
  patterns.foldr .seq .empty

/-- The given text. -/
def literal (text : String) : Pattern :=
  sequence (text.toList.map fun character => .one (· == character))

/-- The given text of small ASCII letters, disregarding case. -/
def folded (text : String) : Pattern :=
  sequence (text.toList.map fun letter => .one (Text.matchesFolded letter))

/-- One of the patterns; `first` and `others` are tried in order. -/
def choice (first : Pattern) (others : List Pattern) : Pattern :=
  others.foldl .alt first

/-- One of the patterns, of which there may be none. -/
def anyOf (patterns : List Pattern) : Pattern :=
  patterns.foldr .alt (.one fun _ => false)

/-- One of the given words of small ASCII letters, disregarding case. -/
def anyWord (words : List String) : Pattern :=
  anyOf (words.map folded)

end Pattern

end DiffReview
