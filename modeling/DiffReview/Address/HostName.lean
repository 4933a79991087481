import DiffReview.Address.HostName.Table
import DiffReview.Text.Punycode

/-!
# Host names beyond ASCII

A host name is cut into labels at dots.  A label with characters beyond ASCII is written with ASCII
characters if it is sound: each character is permitted where it stands, no pair of characters should
be a single one, and text that runs from right to left is not mixed with other text.
-/

namespace DiffReview.Address.HostName

open Text

/-- Whether a character is in one of some ranges. -/
def isIn (ranges : List (Nat × Nat)) (character : Char) : Bool :=
  ranges.any fun (first, last) => first ≤ character.toNat && character.toNat ≤ last

/-- Whether a character may stand anywhere in a label. -/
def isPermitted (character : Char) : Bool :=
  let code := character.toNat
  if code < 0x80 then
    character.isLower || character.isDigit || character == '-'
  else
    permittedRuns.any fun (first, last, distance) =>
      first ≤ code && code ≤ last && (code - first) % distance == 0

/-- Whether a character is a digit of the western Arabic script, beyond ASCII. -/
def isArabicDigit (character : Char) : Bool :=
  isIn [(0x660, 0x669)] character

/-- Whether a character is a digit of the eastern Arabic script. -/
def isExtendedDigit (character : Char) : Bool :=
  isIn [(0x6F0, 0x6F9)] character

/-- Whether a character that is not permitted everywhere may stand in a label after one character
and before another one. -/
def isPermittedBetween (label : List Char) (before after : Option Char) (character : Char) : Bool :=
  match character.toNat with
  | 0x200C | 0x200D => before.any (isIn joiningMarkRanges)
  | 0xB7 => before == some 'l' && after == some 'l'
  | 0x375 => after.any (isIn greekRanges)
  | 0x5F3 | 0x5F4 => before.any (isIn hebrewRanges)
  | 0x30FB => label.any (isIn eastAsianRanges)
  | _ =>
    (isArabicDigit character && !label.any isExtendedDigit) ||
      (isExtendedDigit character && !label.any isArabicDigit)

/-- Whether all characters may stand where they do, given the one before them. -/
def arePermitted (label : List Char) : Option Char → List Char → Bool
  | _, [] => true
  | before, character :: rest =>
    (isPermitted character || isPermittedBetween label before rest.head? character) &&
      arePermitted label (some character) rest

/-- Whether two neighbours should be a single character. -/
def hasComposingPair : List Char → Bool
  | first :: second :: rest =>
    ((composingPairs.lookup second.toNat).any fun partners => partners.contains first.toNat) ||
      hasComposingPair (second :: rest)
  | _ => false

/-- In which direction a character makes text run. -/
inductive Direction
  | leftToRight
  | rightToLeft
  | number
  | arabicNumber
  | mark
  | neutral
deriving DecidableEq, Repr

/-- The direction of a character. -/
def direction (character : Char) : Direction :=
  if character.isDigit || isExtendedDigit character then .number
  else if isIn [(0x660, 0x669), (0x10D30, 0x10D39)] character then .arabicNumber
  else if isIn markRanges character then .mark
  else if character == '-' || isIn neutralRanges character then .neutral
  else if isIn rightToLeftRanges character then .rightToLeft
  else .leftToRight

/-- Whether the directions in a label go together.  Where some text runs from right to left, all
does, from the first character to the last that is no mark; and its numbers are of one kind. -/
def runsOneWay (label : List Char) : Bool :=
  let directions := label.map direction
  if directions.contains .rightToLeft || directions.contains .arabicNumber then
    directions.head? == some .rightToLeft && !directions.contains .leftToRight &&
      (directions.reverse.find? (· != .mark)).any (· != .neutral) &&
      !(directions.contains .number && directions.contains .arabicNumber)
  else
    true

/-- Whether the hyphens of a label stand inside it, and not where a prefix ends. -/
def hasProperHyphens (label : List Char) : Bool :=
  label.head? != some '-' && label.getLast? != some '-' && (label.drop 2).take 2 != ['-', '-']

/-- Whether a label is sound. -/
def isSound (label : List Char) : Bool :=
  !label.isEmpty && !label.head?.any (isIn markRanges) && hasProperHyphens label &&
    !hasComposingPair label && arePermitted label none label && runsOneWay label

/-- The mark at the start of a label that is written with ASCII characters. -/
def encodedMark : List Char := "xn--".toList

/-- The most characters of a label. -/
def maxLabel : Nat := 63

/-- The characters with the given numbers, if there are such. -/
def characters? (codes : List Nat) : Option (List Char) :=
  codes.mapM fun code => if code.isValidChar then some (Char.ofNat code) else none

/-- Whether what follows the mark of a label stands for a sound label. -/
def standsForSound (written : List Char) : Bool :=
  !written.isEmpty && written.getLast? != some '-' &&
    ((Punycode.decode? written).bind characters?).any isSound

/-- A label written with ASCII characters, if it is sound and not too long.  One that already is
written so stays as it is. -/
def encodeLabel? (label : List Char) : Option (List Char) :=
  let encoded :=
    if !label.all fun character => character.toNat < 0x80 then
      if isSound label then some (encodedMark ++ Punycode.encode label) else none
    else
      match encodedMark.isPrefixOf? label with
      | some written => if standsForSound written then some label else none
      | none => if isSound label then some label else none
  encoded.filter fun encoded => encoded.length ≤ maxLabel

/-- Whether a character separates labels. -/
def isDot (character : Char) : Bool :=
  character == '.' || isIn [(0x3002, 0x3002), (0xFF0E, 0xFF0E), (0xFF61, 0xFF61)] character

/-- The most characters of a host name, apart from a dot at its end. -/
def maxName : Nat := 253

/-- A host name written with ASCII characters; a dot at its end stays. -/
def encode? (name : List Char) : Option (List Char) := do
  if maxName + 1 < name.length then none
  let labels := name.splitOnP isDot
  let hasFinalDot := 1 < labels.length && labels.getLast? == some []
  let encoded ← (if hasFinalDot then labels.dropLast else labels).mapM encodeLabel?
  let encoded := ['.'].intercalate encoded
  if maxName < encoded.length then none
  return if hasFinalDot then encoded ++ ['.'] else encoded

end DiffReview.Address.HostName
