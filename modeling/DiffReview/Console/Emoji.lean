import DiffReview.Console.Emoji.Table
import DiffReview.Console.Width
import DiffReview.Text.Blank
import DiffReview.Text.LetterCase

/-!
# Pictures by their names

A name between two colons stands for a picture.  A mark after the name says whether the picture is
coloured or a plain sign.  A name that is not known stands for itself, together with its colons.
-/

namespace DiffReview.Console.Emoji

open Text

/-- The words for the colours of the skin, and their signs. -/
def tones : List (String × Char) :=
  [("light", '🏻'), ("medium-light", '🏼'), ("medium", '🏽'), ("medium-dark", '🏾'), ("dark", '🏿')]

/-- Words that alternate between names and pictures as pairs. -/
def pairs : List String → List (String × String)
  | name :: picture :: rest => (name, picture) :: pairs rest
  | _ => []

/-- The names that some lines list, with their pictures. -/
def listed (lines : List String) : List (String × String) :=
  lines.flatMap fun line => pairs (line.splitOn " ")

/-- A picture with a colour of the skin, whose sign comes after the first character. -/
def paint (tone : Char) : List Char → List Char
  | [] => []
  | first :: rest => first :: tone :: if rest.head? = some coloured then rest.tail else rest

/-- A name and its picture with each colour of the skin. -/
def painted (name picture : String) : List (String × String) :=
  tones.map fun (word, tone) =>
    (s!"{name}_{word}_skin_tone", String.ofList (paint tone picture.toList))

/-- All names with their pictures. -/
def names : List (String × String) :=
  listed plainNames ++ listed tonedNames ++
    (listed tonedNames).flatMap fun (name, picture) => painted name picture

/-- The picture that a name stands for, in letters of any case. -/
def picture? (name : List Char) : Option (List Char) :=
  (names.lookup (String.ofList (lower name))).map String.toList

/-- What may stand after a name, and the sign that it adds to the picture. -/
def endings : List (List Char × List Char) :=
  [("-emoji:".toList, [coloured]), ("-text:".toList, [uncoloured]), ([':'], [])]

/-- A name in a text. -/
structure Mention where
  /-- The name. -/
  name : List Char
  /-- The sign that is added to the picture. -/
  sign : List Char
  /-- How many characters the name and its ending have. -/
  length : Nat

/-- The ending at the start of a text, after a name without characters. -/
def ending? (text : List Char) : Option Mention :=
  endings.findSome? fun (ending, sign) =>
    if ending.isPrefixOf text then some ⟨[], sign, ending.length⟩ else none

/-- The name that a text starts with after a colon: the shortest one, free of blanks, that an ending
follows. -/
def mention? : List Char → Option Mention
  | [] => none
  | character :: rest =>
    (ending? (character :: rest)).or
      (if isBlank character then
        none
      else
        (mention? rest).map fun mention =>
          ⟨character :: mention.name, mention.sign, mention.length + 1⟩)

/-- A text after its first characters, as many as given, with pictures for their names. -/
def replaceFrom : Nat → List Char → List Char
  | _, [] => []
  | skipped + 1, _ :: rest => replaceFrom skipped rest
  | 0, character :: rest =>
    match if character = ':' then mention? rest else none with
    | none => character :: replaceFrom 0 rest
    | some mention =>
      let known := (picture? mention.name).map (· ++ mention.sign)
      known.getD (character :: rest.take mention.length) ++ replaceFrom mention.length rest

/-- A text with pictures for their names. -/
def replaceNames (text : List Char) : List Char :=
  replaceFrom 0 text

end DiffReview.Console.Emoji
