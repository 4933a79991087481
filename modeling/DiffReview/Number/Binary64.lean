/-!
# Binary64 numbers

A binary64 number is kept as its sixty-four bits: the sign, and the bits of its size.  Sizes are
ordered as their bits are, so that two numbers can be compared without any arithmetic on them.  The
numbers with a size beyond that of infinity are undefined, and are neither less nor greater than
any other; their signs are kept all the same.
-/

namespace DiffReview.Number

/-- A binary64 number, given by its bits. -/
structure Binary64 where
  /-- The bits, with the sign first. -/
  bits : UInt64
deriving DecidableEq, Repr, Inhabited

namespace Binary64

/-- The bit of the sign. -/
def signBit : Nat := Nat.pow 2 63

/-- The bits of the size of infinity. -/
def infiniteSize : Nat := 0x7FF0000000000000

/-- The number of some bits. -/
def ofBits (bits : Nat) : Binary64 :=
  ⟨UInt64.ofNat bits⟩

/-- The number that is larger than all others. -/
def infinity : Binary64 := ofBits infiniteSize

/-- The usual undefined number. -/
def undefined : Binary64 := ofBits 0x7FF8000000000000

/-- The bits of the size. -/
def size (number : Binary64) : Nat :=
  number.bits.toNat % signBit

/-- Whether the sign is a minus. -/
def isNegative (number : Binary64) : Bool :=
  signBit ≤ number.bits.toNat

/-- Whether the number is undefined. -/
def isUndefined (number : Binary64) : Bool :=
  infiniteSize < number.size

/-- Whether the number is infinite, with either sign. -/
def isInfinite (number : Binary64) : Bool :=
  number.size == infiniteSize

/-- The number with the other sign. -/
def negate (number : Binary64) : Binary64 :=
  ⟨number.bits ^^^ UInt64.ofNat signBit⟩

instance : Neg Binary64 := ⟨negate⟩

/-- The place of a number in the order of all that are defined; both zeros have the same. -/
def place (number : Binary64) : Int :=
  if number.isNegative then -(number.size : Int) else number.size

/-- Whether two numbers are defined, and so can be compared. -/
def areComparable (left right : Binary64) : Bool :=
  !left.isUndefined && !right.isUndefined

instance : LT Binary64 := ⟨fun left right => areComparable left right ∧ left.place < right.place⟩

instance : LE Binary64 := ⟨fun left right => areComparable left right ∧ left.place ≤ right.place⟩

instance (left right : Binary64) : Decidable (left < right) :=
  inferInstanceAs (Decidable (areComparable left right ∧ left.place < right.place))

instance (left right : Binary64) : Decidable (left ≤ right) :=
  inferInstanceAs (Decidable (areComparable left right ∧ left.place ≤ right.place))

theorem lt_iff (left right : Binary64) :
    left < right ↔ areComparable left right ∧ left.place < right.place :=
  Iff.rfl

theorem le_iff (left right : Binary64) :
    left ≤ right ↔ areComparable left right ∧ left.place ≤ right.place :=
  Iff.rfl

end Binary64

end DiffReview.Number
