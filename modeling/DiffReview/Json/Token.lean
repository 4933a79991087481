import DiffReview.Json.Basic
import DiffReview.Number.Rounding
import DiffReview.Text.Hexadecimal

/-!
# JSON tokens

A text is cut into punctuation, strings, numbers and the words for constants, between which only
spaces, tabs and line ends may stand.  The list of tokens ends at the first place where no token can
be read, with the token `invalid`.  An integer keeps its digits: how many there may be is decided
only where a value is wanted.
-/

namespace DiffReview.Json

open Text

/-- A token of JSON text. -/
inductive Token
  | openArray
  | closeArray
  | openObject
  | closeObject
  | comma
  | colon
  /-- A constant or a number with a fraction or an exponent. -/
  | constant (value : Json)
  /-- An integer. -/
  | integer (negative : Bool) (digits : List Char)
  /-- A string. -/
  | text (points : List CodePoint)
  /-- A place where no token can be read. -/
  | invalid

/-! ## Strings -/

/-- A part of a string: a code point that stands for itself or that an escape stands for. -/
inductive Piece
  | plain (point : CodePoint)
  /-- A code unit of sixteen bits given by its number. -/
  | unit (code : Nat)

/-- The number that four hexadecimal digits denote. -/
def hexUnit? (first second third fourth : CodePoint) : Option Nat :=
  (soundText? [first, second, third, fourth]).bind hexNumber?

/-- The character that a single letter escapes. -/
def escaped? : Char → Option Char
  | '"' => some '"'
  | '\\' => some '\\'
  | '/' => some '/'
  | 'b' => some '\x08'
  | 'f' => some '\x0c'
  | 'n' => some '\n'
  | 'r' => some '\r'
  | 't' => some '\t'
  | _ => none

/-- The pieces of a string up to its closing quote, and what follows the quote. -/
def scanPieces : List CodePoint → Option (List Piece × List CodePoint)
  | .scalar '\\' :: .scalar 'u' :: first :: second :: third :: fourth :: rest =>
    match hexUnit? first second third fourth with
    | none => none
    | some code => (scanPieces rest).map fun (pieces, after) => (.unit code :: pieces, after)
  | .scalar '\\' :: .scalar letter :: rest =>
    match escaped? letter with
    | none => none
    | some character =>
      (scanPieces rest).map fun (pieces, after) => (.plain (.scalar character) :: pieces, after)
  | .scalar '"' :: rest => some ([], rest)
  | .scalar character :: rest =>
    if character = '\\' ∨ character.toNat < 0x20 then
      none
    else
      (scanPieces rest).map fun (pieces, after) => (.plain (.scalar character) :: pieces, after)
  | .surrogate offset :: rest =>
    (scanPieces rest).map fun (pieces, after) => (.plain (.surrogate offset) :: pieces, after)
  | [] => none

/-- The code point of a code unit. -/
def unitPoint (code : Nat) : CodePoint :=
  (CodePoint.ofNat? code).getD (.scalar (Char.ofNat code))

/-- Whether a code unit is the first half of a surrogate pair. -/
def isHighSurrogate (code : Nat) : Bool :=
  0xD800 ≤ code && code < 0xDC00

/-- Whether a code unit is the second half of a surrogate pair. -/
def isLowSurrogate (code : Nat) : Bool :=
  0xDC00 ≤ code && code < 0xE000

/-- The code points of some pieces: two escapes that form a surrogate pair are one character. -/
def joinPieces : List Piece → List CodePoint
  | [] => []
  | .plain point :: rest => point :: joinPieces rest
  | [.unit code] => [unitPoint code]
  | .unit high :: .unit low :: rest =>
    if isHighSurrogate high && isLowSurrogate low then
      .scalar (Char.ofNat (0x10000 + (high - 0xD800) * 0x400 + (low - 0xDC00))) :: joinPieces rest
    else
      unitPoint high :: joinPieces (.unit low :: rest)
  | .unit code :: .plain point :: rest => unitPoint code :: point :: joinPieces rest

/-- The code points of a string after its opening quote, and what follows its closing quote. -/
def scanText (points : List CodePoint) : Option (Token × List CodePoint) :=
  (scanPieces points).map fun (pieces, after) => (.text (joinPieces pieces), after)

/-! ## Numbers and constants -/

/-- The ASCII digits at the start of a text, and what follows them. -/
def spanDigits : List CodePoint → List Char × List CodePoint
  | .scalar character :: rest =>
    if character.isDigit then
      let (digits, after) := spanDigits rest
      (character :: digits, after)
    else
      ([], .scalar character :: rest)
  | points => ([], points)

/-- The integral part of a number: a zero alone, or digits of which the first is no zero. -/
def scanWhole : List CodePoint → Option (List Char × List CodePoint)
  | .scalar '0' :: rest => some (['0'], rest)
  | points =>
    match spanDigits points with
    | ([], _) => none
    | (digits, rest) => some (digits, rest)

/-- The digits of a fraction, if there is one. -/
def scanFraction : List CodePoint → Option (List Char × List CodePoint)
  | .scalar '.' :: rest =>
    match spanDigits rest with
    | ([], _) => none
    | (digits, after) => some (digits, after)
  | _ => none

/-- An exponent, if there is one. -/
def scanExponent : List CodePoint → Option (Int × List CodePoint)
  | .scalar mark :: rest =>
    if mark = 'e' ∨ mark = 'E' then
      let (negative, digits) := match rest with
        | .scalar '-' :: others => (true, others)
        | .scalar '+' :: others => (false, others)
        | others => (false, others)
      match spanDigits digits with
      | ([], _) => none
      | (digits, after) =>
        let value : Int := digitsValue digits
        some (if negative then -value else value, after)
    else
      none
  | _ => none

/-- A number without its sign, and what follows it. -/
def scanNumber (negative : Bool) (points : List CodePoint) : Option (Token × List CodePoint) :=
  match scanWhole points with
  | none => none
  | some (whole, rest) =>
    let fraction := scanFraction rest
    let rest := (fraction.map Prod.snd).getD rest
    let exponent := scanExponent rest
    let rest := (exponent.map Prod.snd).getD rest
    if fraction.isNone && exponent.isNone then
      some (.integer negative whole, rest)
    else
      let places := (fraction.map Prod.fst).getD []
      let power := (exponent.map Prod.fst).getD 0
      let size := Number.nearestDecimal (digitsValue (whole ++ places)) (power - places.length)
      some (.constant (.float (if negative then -size else size)), rest)

/-- What follows a word at the start of a text. -/
def dropWord? (word : String) (points : List CodePoint) : Option (List CodePoint) :=
  (codePoints word.toList).isPrefixOf? points

/-- The words for constants and what they stand for. -/
def constants : List (String × Json) :=
  [("null", .null), ("true", .bool true), ("false", .bool false),
    ("NaN", .float .undefined),
    ("Infinity", .float .infinity),
    ("-Infinity", .float (-.infinity))]

/-- A constant, and what follows it. -/
def scanConstant (points : List CodePoint) : Option (Token × List CodePoint) :=
  constants.findSome? fun (word, value) =>
    (dropWord? word points).map fun rest => (.constant value, rest)

/-! ## Tokens -/

/-- Whether a code point may stand between tokens. -/
def isSpacing (point : CodePoint) : Bool :=
  point == .scalar ' ' || point == .scalar '\t' || point == .scalar '\n' || point == .scalar '\r'

/-- The token that starts with a code point, and what follows it. -/
def scanToken (point : CodePoint) (rest : List CodePoint) : Option (Token × List CodePoint) :=
  match point with
  | .surrogate _ => none
  | .scalar character =>
    match character with
    | '[' => some (.openArray, rest)
    | ']' => some (.closeArray, rest)
    | '\x7b' => some (.openObject, rest)
    | '\x7d' => some (.closeObject, rest)
    | ',' => some (.comma, rest)
    | ':' => some (.colon, rest)
    | '"' => scanText rest
    | '-' => (scanNumber true rest).or (scanConstant (point :: rest))
    | _ => (scanNumber false (point :: rest)).or (scanConstant (point :: rest))

/-- The tokens of a text, given a bound on their number. -/
def tokensWithin : Nat → List CodePoint → List Token
  | 0, _ => []
  | _, [] => []
  | fuel + 1, point :: rest =>
    if isSpacing point then
      tokensWithin fuel rest
    else
      match scanToken point rest with
      | none => [.invalid]
      | some (token, after) => token :: tokensWithin fuel after

/-- The tokens of a text. -/
def tokens (points : List CodePoint) : List Token :=
  tokensWithin points.length points

end DiffReview.Json
