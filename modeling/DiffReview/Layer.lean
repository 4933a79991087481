import DiffReview.Action
import DiffReview.Limits
import DiffReview.Number.Quantity
import DiffReview.Rule
import DiffReview.Text.Quoted

/-!
# Layers

A layer looks at a diff and proposes comments.  A run of a layer says what happens, and when: what
the layer does before it waits for anything, when it goes on, what it then logs, and how it ends.
-/

namespace DiffReview

/-- When a layer has its answer. -/
inductive Arrival
  /-- Without waiting for anything. -/
  | atOnce
  /-- After those that wait for nothing, when this many turns have passed. -/
  | soon (turns : Nat)
  /-- After some time. -/
  | after (delay : Duration)

/-- What happens when a layer looks at a diff. -/
structure LayerRun where
  /-- What happens before the layer waits. -/
  opening : List Effect := []
  /-- When the layer has its answer. -/
  arrival : Arrival := .atOnce
  /-- What is logged when the layer has its answer. -/
  closing : List Event := []
  /-- The comments, or why there are none. -/
  outcome : Except Failure (List Comment)
  /-- How many turns the layer takes to stop when its time is over. -/
  stopTurns : Nat := 0

/-- A reviewer of diffs. -/
structure Layer where
  /-- What kind of layer it is. -/
  kind : String
  /-- The name in the log. -/
  name : String
  /-- What happens when the layer looks at a diff. -/
  run : Diff → LayerRun

namespace Layer

/-- The layer that applies rules. -/
def ofRules (rules : List Rule) : Layer where
  kind := "PatternLayer"
  name := "pattern"
  run := fun diff =>
    let comments := Rule.scan rules diff
    { closing := [.rulesApplied comments.length rules.length], outcome := .ok comments }

/-- The layer that checks limits. -/
def ofLimits (limits : Limits) : Layer where
  kind := "HeuristicLayer"
  name := "heuristic"
  run := fun diff =>
    match limits.check diff with
    | .ok comments => { outcome := .ok comments }
    | .error error => { closing := [.limitsFailed error.message], outcome := .ok [] }

@[simp]
theorem opening_run_ofLimits (limits : Limits) (diff : Diff) :
    ((ofLimits limits).run diff).opening = [] := by
  rw [ofLimits]
  dsimp only
  split <;> rfl

/-- Where a limit cannot be written, nothing is proposed. -/
theorem outcome_run_ofLimits (limits : Limits) (diff : Diff) :
    ((ofLimits limits).run diff).outcome = .ok ((limits.check diff).toOption.getD []) := by
  rw [ofLimits]
  dsimp only
  split <;> simp [*, Except.toOption]

/-- The kind of a layer with its name. -/
def describe (layer : Layer) : String :=
  s!"{layer.kind}(name={String.ofList (Text.quoted layer.name.toList)})"

end Layer

end DiffReview
