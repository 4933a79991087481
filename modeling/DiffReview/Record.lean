import DiffReview.Field

/-!
# Records of outside data

A record is read field by field, and all faults are reported, in the order of the fields.  A fault
in a record inside another one has the name of that one in front of its place.
-/

namespace DiffReview

open Text (CodePoint)

/-- A value, or all the faults because of which there is none. -/
inductive Checked (α : Type)
  | accepted (value : α)
  | refused (faults : List LocatedFault)

namespace Checked

variable {α β : Type}

/-- The faults. -/
def faults : Checked α → List LocatedFault
  | accepted _ => []
  | refused faults => faults

/-- The value, if there is no fault. -/
def value? : Checked α → Option α
  | accepted value => some value
  | refused _ => none

/-- A function applied to a value; the faults of both are kept. -/
def apply (function : Checked (α → β)) (value : Unit → Checked α) : Checked β :=
  match function, value () with
  | accepted function, accepted value => accepted (function value)
  | accepted _, refused faults => refused faults
  | refused faults, other => refused (faults ++ other.faults)

instance : Applicative Checked where
  pure := accepted
  seq := apply

/-- The outcome of checking a field at a place. -/
def ofField (place : String) : Except FieldFault α → Checked α
  | .ok value => accepted value
  | .error fault => refused [⟨[place], fault⟩]

/-- The same with a name in front of all places. -/
def within (name : String) : Checked α → Checked α
  | accepted value => accepted value
  | refused faults => refused (faults.map fun fault => { fault with place := name :: fault.place })

end Checked

namespace Record

variable {α : Type}

/-- The members of a record. -/
abbrev Members := List (List CodePoint × Json)

/-- A field that must be there. -/
def required (check : Json → Except FieldFault α) (name : String) (members : Members) : Checked α :=
  .ofField name ((Json.member? name members).elim (.error .missing) check)

/-- A field that takes a default where it is not there. -/
def withDefault (check : Json → Except FieldFault α) (otherwise : α) (name : String)
    (members : Members) : Checked α :=
  .ofField name ((Json.member? name members).elim (.ok otherwise) check)

/-- A check that lets null through. -/
def orNull (check : Json → Except FieldFault α) : Json → Except FieldFault (Option α)
  | .null => .ok none
  | value => (check value).map some

/-- A field that may be null or not there. -/
def nullable (check : Json → Except FieldFault α) (name : String) (members : Members) :
    Checked (Option α) :=
  withDefault (orNull check) none name members

/-- A record. -/
def ofJson (read : Members → Checked α) : Json → Checked α
  | .object members => read members
  | _ => .refused [⟨[], .modelType⟩]

/-- A record inside another one that must be there. -/
def nested (read : Members → Checked α) (name : String) (members : Members) : Checked α :=
  match Json.member? name members with
  | none => .refused [⟨[name], .missing⟩]
  | some value => (ofJson read value).within name

/-- A record inside another one that may be null or not there. -/
def nullableNested (read : Members → Checked α) (name : String) (members : Members) :
    Checked (Option α) :=
  match Json.member? name members with
  | none => .accepted none
  | some .null => .accepted none
  | some value => some <$> (ofJson read value).within name

end Record

end DiffReview
