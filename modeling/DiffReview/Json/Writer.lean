import DiffReview.Json.Basic
import DiffReview.Number.Shortest
import DiffReview.Text.Hexadecimal

/-!
# Writing JSON

Values are written with ASCII characters only: a quote, a backslash, a control character and
everything beyond ASCII is escaped.  A comma or colon is followed by one space.
-/

namespace DiffReview.Json

open Text

/-- A code unit of sixteen bits as an escape with four small hexadecimal digits. -/
def escapeUnit (code : Nat) : List Char :=
  '\\' :: 'u' :: hexDigits 4 code

/-- The written form of a code point in a string. -/
def writePoint : CodePoint → List Char
  | .surrogate offset => escapeUnit (0xD800 + offset)
  | .scalar '"' => ['\\', '"']
  | .scalar '\\' => ['\\', '\\']
  | .scalar '\n' => ['\\', 'n']
  | .scalar '\r' => ['\\', 'r']
  | .scalar '\t' => ['\\', 't']
  | .scalar '\x0c' => ['\\', 'f']
  | .scalar '\x08' => ['\\', 'b']
  | .scalar character =>
    let code := character.toNat
    if 0x20 ≤ code ∧ code < 0x7F then
      [character]
    else if code < 0x10000 then
      escapeUnit code
    else
      escapeUnit (0xD800 + (code - 0x10000) / 0x400) ++
        escapeUnit (0xDC00 + (code - 0x10000) % 0x400)

/-- The written form of a string. -/
def writeText (points : List CodePoint) : List Char :=
  '"' :: points.flatMap writePoint ++ ['"']

/-- The written form of a number with a fraction or an exponent. -/
def writeFloat (value : Number.Binary64) : List Char :=
  match Number.shortestText value with
  | "nan" => "NaN".toList
  | "inf" => "Infinity".toList
  | "-inf" => "-Infinity".toList
  | decimal => decimal.toList

mutual

/-- The written form of a value. -/
def write : Json → List Char
  | .null => "null".toList
  | .bool true => "true".toList
  | .bool false => "false".toList
  | .integer value => (toString value).toList
  | .float value => writeFloat value
  | .text points => writeText points
  | .array items => '[' :: writeItems items ++ [']']
  | .object members => '\x7b' :: writeMembers members ++ ['\x7d']

/-- The written form of the items of an array. -/
def writeItems : List Json → List Char
  | [] => []
  | [item] => write item
  | item :: others => write item ++ [',', ' '] ++ writeItems others

/-- The written form of the members of an object. -/
def writeMembers : List (List CodePoint × Json) → List Char
  | [] => []
  | [(name, value)] => writeText name ++ [':', ' '] ++ write value
  | (name, value) :: others =>
    writeText name ++ [':', ' '] ++ write value ++ [',', ' '] ++ writeMembers others

end

/-! ## Numbers that are too long -/

mutual

/-- Whether no integer in a value has too many digits to be written. -/
def isWritable : Json → Bool
  | .integer value => (writeInteger value).toBool
  | .array items => areWritable items
  | .object members => areWritableMembers members
  | _ => true

/-- Whether that holds of all items. -/
def areWritable : List Json → Bool
  | [] => true
  | item :: others => isWritable item && areWritable others

/-- Whether that holds of the values of all members. -/
def areWritableMembers : List (List CodePoint × Json) → Bool
  | [] => true
  | (_, value) :: others => isWritable value && areWritableMembers others

end

end DiffReview.Json
