import DiffReview.Text.Utf8

/-!
# UTF-16 and UTF-32

Units of two or four bytes, in either byte order.  A surrogate that is not part of a pair is let
through.
-/

namespace DiffReview.Text

/-- In which order the bytes of a unit stand. -/
inductive ByteOrder
  /-- The byte of the highest value comes first. -/
  | big
  /-- The byte of the lowest value comes first. -/
  | little
deriving DecidableEq, Repr

/-- The number that the bytes of a unit denote. -/
def unitValue (order : ByteOrder) (bytes : Bytes) : Nat :=
  let ordered := match order with
    | .big => bytes
    | .little => bytes.reverse
  ordered.foldl (fun value byte => value * 0x100 + byte.toNat) 0

/-- The units of two bytes, if their number is even. -/
def units16? (order : ByteOrder) : Bytes → Option (List Nat)
  | [] => some []
  | first :: second :: rest => (units16? order rest).map (unitValue order [first, second] :: ·)
  | _ => none

/-- The units of four bytes, if their number is a multiple of four. -/
def units32? (order : ByteOrder) : Bytes → Option (List Nat)
  | [] => some []
  | first :: second :: third :: fourth :: rest =>
    (units32? order rest).map (unitValue order [first, second, third, fourth] :: ·)
  | _ => none

/-- The code point of a surrogate pair, if two units form one. -/
def pairValue? (high low : Nat) : Option Nat :=
  if 0xD800 ≤ high ∧ high < 0xDC00 ∧ 0xDC00 ≤ low ∧ low < 0xE000 then
    some (0x10000 + (high - 0xD800) * 0x400 + (low - 0xDC00))
  else
    none

/-- The numbers of the code points of some units, after a unit that may open a pair. -/
def joinPairs : Option Nat → List Nat → List Nat
  | none, [] => []
  | some high, [] => [high]
  | none, unit :: rest => joinPairs (some unit) rest
  | some high, unit :: rest =>
    match pairValue? high unit with
    | some code => code :: joinPairs none rest
    | none => high :: joinPairs (some unit) rest

/-- The code points of some bytes in UTF-16. -/
def decodeUtf16? (order : ByteOrder) (bytes : Bytes) : Option (List CodePoint) :=
  (units16? order bytes).bind fun units => (joinPairs none units).mapM CodePoint.ofNat?

/-- The code points of some bytes in UTF-32. -/
def decodeUtf32? (order : ByteOrder) (bytes : Bytes) : Option (List CodePoint) :=
  (units32? order bytes).bind fun units => units.mapM CodePoint.ofNat?

end DiffReview.Text
