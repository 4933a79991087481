import DiffReview.Json.Token

/-!
# Reading JSON

The tokens of a text are read once, from left to right, with a stack of the arrays and objects that
are open.  The first token that does not fit decides the error, and so does the first that opens an
array or object inside too many others.  How many are too many depends on the machine, and so is a
parameter: as many may be open as the given nesting says.
-/

namespace DiffReview.Json

open Text

/-- An array or object that is open, with its parts so far. -/
inductive Frame
  /-- An array with these items. -/
  | array (items : List Json)
  /-- An object with these members, and the name of the member being read. -/
  | object (members : List (List CodePoint × Json)) (name : List CodePoint)

/-- What may come next. -/
inductive Expected
  /-- A value. -/
  | value
  /-- An item or the end of an array. -/
  | firstItem
  /-- A member or the end of an object with these members, which are none. -/
  | firstMember
  /-- The name of a member of an object with these members. -/
  | name (members : List (List CodePoint × Json))
  /-- The colon after a name. -/
  | colon
  /-- The separator or end after an item or member. -/
  | separator (frame : Frame)
  /-- Nothing more: this is the value. -/
  | nothing (value : Json)

/-- What may come next, and the arrays and objects that are open around it. -/
structure ReaderState where
  /-- What may come next. -/
  expected : Expected
  /-- The open arrays and objects, the innermost first. -/
  stack : List Frame

namespace ReaderState

/-- The state after a value has been read. -/
def deliver (value : Json) : List Frame → ReaderState
  | [] => ⟨.nothing value, []⟩
  | .array items :: stack => ⟨.separator (.array (items ++ [value])), stack⟩
  | .object members name :: stack => ⟨.separator (.object (members ++ [(name, value)]) []), stack⟩

/-- The state after an array or object has been opened, given what may come next in it. -/
def openContainer (nesting : Nat) (container : JsonContainer) (expected : Expected)
    (stack : List Frame) : Except JsonError ReaderState :=
  if nesting ≤ stack.length then .error (.beyond (.nesting container))
  else .ok ⟨expected, stack⟩

/-- The state after a token where a value may stand. -/
def readValue (nesting : Nat) (stack : List Frame) : Token → Except JsonError ReaderState
  | .openArray => openContainer nesting .array .firstItem stack
  | .openObject => openContainer nesting .object .firstMember stack
  | .constant value => .ok (deliver value stack)
  | .text points => .ok (deliver (.text points) stack)
  | .integer negative digits =>
    match readDigits digits with
    | .error error => .error (.beyond (.digits error))
    | .ok size => .ok (deliver (.integer (if negative then -size else size)) stack)
  | _ => .error .malformed

/-- The state after a token where the name of a member may stand. -/
def readName (members : List (List CodePoint × Json)) (stack : List Frame) :
    Token → Except JsonError ReaderState
  | .text name => .ok ⟨.colon, .object members name :: stack⟩
  | _ => .error .malformed

/-- The state after a token. -/
def read (nesting : Nat) (state : ReaderState) (token : Token) : Except JsonError ReaderState :=
  match state.expected, token with
  | .value, token => readValue nesting state.stack token
  | .firstItem, .closeArray => .ok (deliver (.array []) state.stack)
  | .firstItem, token => readValue nesting (.array [] :: state.stack) token
  | .firstMember, .closeObject => .ok (deliver (.object []) state.stack)
  | .firstMember, token => readName [] state.stack token
  | .name members, token => readName members state.stack token
  | .colon, .colon => .ok { state with expected := .value }
  | .separator (.array items), .comma => .ok ⟨.value, .array items :: state.stack⟩
  | .separator (.array items), .closeArray => .ok (deliver (.array items) state.stack)
  | .separator (.object members _), .comma => .ok ⟨.name members, state.stack⟩
  | .separator (.object members _), .closeObject => .ok (deliver (.object members) state.stack)
  | _, _ => .error .malformed

/-- The value, if nothing more may come. -/
def finish (state : ReaderState) : Except JsonError Json :=
  match state.expected with
  | .nothing value => .ok value
  | _ => .error .malformed

end ReaderState

/-- The value that a text denotes. -/
def read (nesting : Nat) (points : List CodePoint) : Except JsonError Json := do
  let state ← (tokens points).foldlM (ReaderState.read nesting) ⟨.value, []⟩
  state.finish

/-- The value that a text denotes. -/
def readString (nesting : Nat) (text : String) : Except JsonError Json :=
  read nesting (codePoints text.toList)

end DiffReview.Json
