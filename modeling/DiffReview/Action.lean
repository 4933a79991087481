import DiffReview.Change
import DiffReview.Comment
import DiffReview.Event
import DiffReview.Failure
import DiffReview.Http

/-!
# Actions

An action has effects, in order, and ends with a result or a failure.  A failure ends all that was
to follow, and keeps the effects that came before it.
-/

namespace DiffReview

/-- What a chat model is asked. -/
structure Question where
  /-- What the model is told about its task. -/
  system : String
  /-- What the model is asked to do. -/
  user : String
  /-- Whether the model has to answer with a JSON object. -/
  jsonMode : Bool
deriving DecidableEq, Repr

/-- Something that others can notice. -/
inductive Effect
  /-- A line is written to the log. -/
  | log (event : Event)
  /-- The diff of a change is asked for. -/
  | fetch (change : Change)
  /-- The layer at a position starts to work. -/
  | call (position : Nat)
  /-- A chat model is asked. -/
  | ask (question : Question)
  /-- Comments are handed over to be posted. -/
  | post (change : Change) (comments : List Comment)
  /-- A request is sent. -/
  | send (request : HttpRequest)
  /-- A diff between revisions is computed in a local clone. -/
  | compute (revisions : String)

namespace Effect

/-- The event that an effect logs. -/
def event? : Effect → Option Event
  | log event => some event
  | _ => none

/-- The change whose diff an effect asks for. -/
def fetched? : Effect → Option Change
  | fetch change => some change
  | _ => none

/-- The position of the layer that an effect starts. -/
def called? : Effect → Option Nat
  | call position => some position
  | _ => none

/-- The question that an effect asks. -/
def question? : Effect → Option Question
  | ask question => some question
  | _ => none

/-- The change and the comments that an effect hands over. -/
def posted? : Effect → Option (Change × List Comment)
  | post change comments => some (change, comments)
  | _ => none

/-- The request that an effect sends. -/
def request? : Effect → Option HttpRequest
  | send request => some request
  | _ => none

/-- The revisions that an effect compares. -/
def computed? : Effect → Option String
  | compute revisions => some revisions
  | _ => none

end Effect

/-- Effects in order, and how it ended. -/
structure Action (α : Type) where
  /-- What others can notice, in order. -/
  effects : List Effect
  /-- The result, or why there is none. -/
  outcome : Except Failure α

namespace Action

variable {α β : Type}

/-- The action after another one, which gets the result of that. -/
def andThen (first : Action α) (next : α → Action β) : Action β :=
  match first.outcome with
  | .ok result => ⟨first.effects ++ (next result).effects, (next result).outcome⟩
  | .error failure => ⟨first.effects, .error failure⟩

instance : Monad Action where
  pure result := ⟨[], .ok result⟩
  bind := andThen

/-- The action with one effect. -/
def perform (effect : Effect) : Action Unit :=
  ⟨[effect], .ok ()⟩

/-- The action that writes a line to the log. -/
def log (event : Event) : Action Unit :=
  perform (.log event)

/-- The action that fails at once. -/
def fail (failure : Failure) : Action α :=
  ⟨[], .error failure⟩

/-- The action with no effect that ends as a computation does that may meet too many digits. -/
def ofDigits : Except Text.DigitLimitError α → Action α
  | .ok result => pure result
  | .error error => fail (.digits error)

/-- The events that an action logs, in order. -/
def events (action : Action α) : List Event :=
  action.effects.filterMap Effect.event?

@[simp]
theorem pure_effects (result : α) : (pure result : Action α).effects = [] := rfl

@[simp]
theorem pure_outcome (result : α) : (pure result : Action α).outcome = .ok result := rfl

@[simp]
theorem perform_effects (effect : Effect) : (perform effect).effects = [effect] := rfl

@[simp]
theorem perform_outcome (effect : Effect) : (perform effect).outcome = .ok () := rfl

@[simp]
theorem fail_effects (failure : Failure) : (fail failure : Action α).effects = [] := rfl

@[simp]
theorem fail_outcome (failure : Failure) : (fail failure : Action α).outcome = .error failure := rfl

theorem bind_of_ok {first : Action α} {result : α} (success : first.outcome = .ok result)
    (next : α → Action β) :
    first >>= next = ⟨first.effects ++ (next result).effects, (next result).outcome⟩ := by
  change andThen first next = _
  simp [andThen, success]

theorem bind_of_error {first : Action α} {failure : Failure}
    (failed : first.outcome = .error failure) (next : α → Action β) :
    first >>= next = ⟨first.effects, .error failure⟩ := by
  change andThen first next = _
  simp [andThen, failed]

end Action

end DiffReview
