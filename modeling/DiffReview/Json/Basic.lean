import DiffReview.Number.Binary64
import DiffReview.Text.CodePoint
import DiffReview.Text.Decimal

/-!
# JSON values

Integers have any size, other numbers are binary64 numbers, and strings are code points, since an
escape may stand for half of a surrogate pair.  An object keeps its members in order and with
repetitions; looking up a name finds the last of them.
-/

namespace DiffReview

open Text

/-- A JSON value. -/
inductive Json
  | null
  | bool (value : Bool)
  | integer (value : Int)
  | float (value : Number.Binary64)
  | text (points : List CodePoint)
  | array (items : List Json)
  | object (members : List (List CodePoint × Json))
deriving Inhabited

namespace Json

/-- The string value of a text. -/
def string (text : String) : Json :=
  .text (codePoints text.toList)

instance : Coe String Json := ⟨string⟩

instance : Coe Bool Json := ⟨bool⟩

instance : Coe Int Json := ⟨integer⟩

instance : Coe Nat Json := ⟨fun value => integer value⟩

/-- The object with the given members. -/
def ofMembers (members : List (String × Json)) : Json :=
  .object (members.map fun (name, value) => (codePoints name.toList, value))

/-- The value, or null if there is none. -/
def ofOption {α : Type} (encode : α → Json) : Option α → Json
  | some value => encode value
  | none => .null

/-- The last member of some name. -/
def member? (name : String) (members : List (List CodePoint × Json)) : Option Json :=
  members.reverse.lookup (codePoints name.toList)

/-- The last member of some name of an object. -/
def get? (value : Json) (name : String) : Option Json :=
  match value with
  | .object members => member? name members
  | _ => none

/-- The text of a string value without surrogates. -/
def text? : Json → Option String
  | .text points => (soundText? points).map String.ofList
  | _ => none

end Json

/-- What encloses other values. -/
inductive JsonContainer
  | array
  | object
deriving DecidableEq, Repr

/-- A bound that a text goes beyond. -/
inductive JsonLimitError
  /-- An integer has too many digits. -/
  | digits (error : DigitLimitError)
  /-- Values enclose each other too often, the innermost being of this kind. -/
  | nesting (container : JsonContainer)
deriving DecidableEq, Repr

namespace JsonContainer

/-- The word for what encloses other values. -/
def name : JsonContainer → String
  | array => "array"
  | object => "object"

/-- The wording of the error that values of this kind enclose each other too often. -/
def nestingMessage (container : JsonContainer) : String :=
  s!"maximum recursion depth exceeded while decoding a JSON {container.name} " ++
    "from a unicode string"

end JsonContainer

/-- The wording of the error. -/
def JsonLimitError.message : JsonLimitError → String
  | digits error => error.message
  | nesting container => container.nestingMessage

/-- Why a text is no JSON value. -/
inductive JsonError
  /-- The text does not follow the grammar. -/
  | malformed
  /-- The text goes beyond a bound. -/
  | beyond (limit : JsonLimitError)
deriving DecidableEq, Repr

end DiffReview
