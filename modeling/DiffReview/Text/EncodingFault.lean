import DiffReview.Text.CodePoint
import DiffReview.Text.Quoted

/-!
# Text that cannot be encoded

ASCII has no bytes for most characters, and UTF-8 has none for surrogates.  A text with such code
points in it is refused because of the first run of them.
-/

namespace DiffReview.Text

/-- An encoding of text. -/
inductive TextEncoding
  | ascii
  | utf8
deriving DecidableEq, Repr

namespace TextEncoding

/-- The name of an encoding. -/
def name : TextEncoding → String
  | ascii => "ascii"
  | utf8 => "utf-8"

/-- Whether an encoding has bytes for a code point. -/
def covers : TextEncoding → CodePoint → Bool
  | ascii, .scalar character => character.toNat < 0x80
  | ascii, .surrogate _ => false
  | utf8, .scalar _ => true
  | utf8, .surrogate _ => false

/-- Which code points an encoding covers. -/
def coverage : TextEncoding → String
  | ascii => "ordinal not in range(128)"
  | utf8 => "surrogates not allowed"

end TextEncoding

/-- A run of code points that an encoding does not cover. -/
structure EncodingFault where
  /-- The encoding. -/
  encoding : TextEncoding
  /-- The first code point of the run. -/
  point : CodePoint
  /-- The position of the first code point. -/
  position : Nat
  /-- How many code points follow the first one. -/
  others : Nat
deriving DecidableEq, Repr

/-- The number of a code point. -/
def CodePoint.code : CodePoint → Nat
  | scalar character => character.toNat
  | surrogate offset => 0xD800 + offset

namespace EncodingFault

/-- The wording of the fault. -/
def message (fault : EncodingFault) : String :=
  let place :=
    if fault.others = 0 then
      s!" '{String.ofList (escapedCode fault.point.code)}' in position {fault.position}"
    else
      s!"s in position {fault.position}-{fault.position + fault.others}"
  s!"'{fault.encoding.name}' codec can't encode character{place}: {fault.encoding.coverage}"

/-- Why a text cannot be encoded, if it cannot. -/
def find? (encoding : TextEncoding) (points : List CodePoint) : Option EncodingFault :=
  match points.dropWhile encoding.covers with
  | [] => none
  | point :: rest =>
    some {
      encoding
      point
      position := points.length - (rest.length + 1)
      others := (rest.takeWhile fun other => !encoding.covers other).length }

theorem find?_eq_none_iff (encoding : TextEncoding) (points : List CodePoint) :
    find? encoding points = none ↔ ∀ point ∈ points, encoding.covers point := by
  have nothing_left : points.dropWhile encoding.covers = [] ↔
      ∀ point ∈ points, encoding.covers point := by
    induction points with
    | nil => simp
    | cons head tail induction => by_cases covered : encoding.covers head <;> simp_all
  rw [← nothing_left]
  unfold find?
  split <;> simp_all

end EncodingFault

end DiffReview.Text
