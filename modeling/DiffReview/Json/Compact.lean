import DiffReview.Json.Writer

/-!
# Compact JSON

Values are written without spaces, and strings with all characters as they are but for quotes,
backslashes and control characters.  The written form is made of code points, since a string may
hold surrogates.
-/

namespace DiffReview.Json

open Text

/-- The compact form of a code point in a string. -/
def compactPoint : CodePoint → List CodePoint
  | .scalar character =>
    if character = '"' ∨ character = '\\' ∨ character.toNat < 0x20 then
      codePoints (writePoint (.scalar character))
    else
      [.scalar character]
  | point => [point]

/-- The compact form of a string. -/
def compactText (points : List CodePoint) : List CodePoint :=
  .scalar '"' :: points.flatMap compactPoint ++ [.scalar '"']

mutual

/-- The compact form of a value. -/
def compact : Json → List CodePoint
  | .text points => compactText points
  | .array items => .scalar '[' :: compactItems items ++ [.scalar ']']
  | .object members => .scalar '\x7b' :: compactMembers members ++ [.scalar '\x7d']
  | value => codePoints (write value)

/-- The compact form of the items of an array. -/
def compactItems : List Json → List CodePoint
  | [] => []
  | [item] => compact item
  | item :: others => compact item ++ .scalar ',' :: compactItems others

/-- The compact form of the members of an object. -/
def compactMembers : List (List CodePoint × Json) → List CodePoint
  | [] => []
  | [(name, value)] => compactText name ++ .scalar ':' :: compact value
  | (name, value) :: others =>
    compactText name ++ .scalar ':' :: compact value ++ .scalar ',' :: compactMembers others

end

/-! ## What a value looks like when it is sent back -/

/-- The members of an object with each name once, where it stands first, and with its last value. -/
def distinctMembers (members : List (List CodePoint × Json)) : List (List CodePoint × Json) :=
  (members.map Prod.fst).eraseDups.filterMap fun name =>
    (members.reverse.lookup name).map fun value => (name, value)

/-- The start of the names that are not sent back. -/
def privateMark : List CodePoint := codePoints "_sa".toList

mutual

/-- A value without the members that are not sent back. -/
def sendable : Json → Json
  | .array items => .array (sendableItems items)
  | .object members =>
    .object (distinctMembers ((sendableMembers members).filter fun (name, _) =>
      !privateMark.isPrefixOf name))
  | value => value

/-- The same for the items of an array. -/
def sendableItems : List Json → List Json
  | [] => []
  | item :: others => sendable item :: sendableItems others

/-- The same for the values of members. -/
def sendableMembers : List (List CodePoint × Json) → List (List CodePoint × Json)
  | [] => []
  | (name, value) :: others => (name, sendable value) :: sendableMembers others

end

mutual

/-- Whether all numbers in a value are finite. -/
def isFinite : Json → Bool
  | .float value => !value.isUndefined && !value.isInfinite
  | .array items => areFinite items
  | .object members => areFiniteMembers members
  | _ => true

/-- Whether all numbers in some items are finite. -/
def areFinite : List Json → Bool
  | [] => true
  | item :: others => isFinite item && areFinite others

/-- Whether all numbers in the values of some members are finite. -/
def areFiniteMembers : List (List CodePoint × Json) → Bool
  | [] => true
  | (_, value) :: others => isFinite value && areFiniteMembers others

end

end DiffReview.Json
