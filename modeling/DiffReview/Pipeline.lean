import DiffReview.Comment.Merge
import DiffReview.Layer

/-!
# Pipelines

All layers of a pipeline look at a diff at the same time, each for no longer than the limit.  A
layer that fails or is late proposes nothing; the comments of the others are merged.  What the
layers do is ordered by time: first what each does before it waits, then how those end that wait
for nothing, then the others as they arrive.  Only a limit that is too long to be written makes a
run fail, when it is to be logged that a layer was late.
-/

namespace DiffReview

open Number (Binary64)
open Text (DigitLimitError)

/-- Layers that look at a diff at the same time. -/
structure Pipeline where
  /-- The layers, in order of preference. -/
  layers : List Layer
  /-- How long a layer may take, if that is limited. -/
  limit : Option Duration := some (.fractional 60)
  /-- The similarity above which two comments say the same. -/
  threshold : Binary64 := defaultThreshold

/-- What a pipeline gets from a layer. -/
inductive LayerResult
  /-- The layer proposed comments. -/
  | returned (comments : List Comment)
  /-- The layer failed. -/
  | raised (reason : String)
  /-- The layer took as long as the limit or longer. -/
  | late (limit : Duration)

namespace LayerResult

/-- The result of a layer that was in time. -/
def ofOutcome : Except Failure (List Comment) → LayerResult
  | .ok comments => returned comments
  | .error failure => raised failure.message

/-- The comments that were proposed. -/
def comments : LayerResult → List Comment
  | returned comments => comments
  | _ => []

/-- What is logged about a result of a layer of the given name, unless a limit cannot be written. -/
def event (name : String) : LayerResult → Except DigitLimitError Event
  | returned comments => .ok (.layerReturned name comments.length)
  | raised reason => .ok (.layerRaised name reason)
  | late limit => limit.text.map (.layerTimedOut name)

end LayerResult

/-- A point in time: a number of seconds from the start, and the turn among all at that time. -/
structure Moment where
  /-- The seconds since the start. -/
  delay : Binary64 := 0
  /-- The turn. -/
  turn : Nat := 0
deriving DecidableEq, Repr

namespace Moment

/-- Whether a moment is not after another one. -/
def notAfter (left right : Moment) : Bool :=
  left.delay < right.delay || (left.delay ≤ right.delay && left.turn ≤ right.turn)

/-- The next turn at the same time. -/
def next (moment : Moment) : Moment :=
  { moment with turn := moment.turn + 1 }

end Moment

/-- The moment at which an answer is there. -/
def Arrival.moment : Arrival → Moment
  | atOnce => {}
  | soon turns => { turn := turns }
  | after delay => { delay := delay.seconds }

/-- Whether an answer is too late for a limit.  Layers that wait for nothing are in time wherever
there is any time at all. -/
def Arrival.isLate (allowed : Duration) (arrival : Arrival) : Bool :=
  allowed.isNone ||
    match arrival with
    | atOnce => false
    | soon turns => allowed.isOverBy turns
    | after delay => allowed.isBrief || allowed.seconds ≤ delay.seconds

namespace LayerRun

/-- What a pipeline with the given limit gets from a run. -/
def result (limit : Option Duration) (run : LayerRun) : LayerResult :=
  match limit with
  | none => .ofOutcome run.outcome
  | some allowed =>
    if allowed.isTooLarge then .raised Duration.tooLargeReason
    else if run.arrival.isLate allowed then .late allowed
    else .ofOutcome run.outcome

/-- Effects that happen at a moment. -/
abbrev Step := Moment × List Effect

/-- What a layer does before it waits, if its time is limited so: it does not start where there is
no time, or too much for a clock, and asks nothing where time is too short for an answer. -/
def openingWithin (allowed : Duration) (position : Nat) (run : LayerRun) : List Effect :=
  if allowed.isNone || allowed.isTooLarge then []
  else if allowed.isBrief then [.call position]
  else .call position :: run.opening

/-- What happens from the start of a run until the layer waits. -/
def start (limit : Option Duration) (position : Nat) (run : LayerRun) : List Step :=
  [({}, limit.elim (.call position :: run.opening) fun allowed =>
    run.openingWithin allowed position)]

/-- The moment at which a layer has stopped whose time is over. -/
def stopMoment (allowed : Duration) (run : LayerRun) : Moment :=
  if allowed.isNone then {}
  else if allowed.isBrief then { turn := 2 + run.stopTurns }
  else { delay := allowed.seconds, turn := run.stopTurns }

/-- What happens at the end of a run after which the given event is logged.  Under a limit, the
result is seen one turn after the answer is there. -/
def finishWith (limit : Option Duration) (event : Event) (run : LayerRun) : List Step :=
  let seen := [Effect.log event]
  let closing := run.closing.map Effect.log
  match limit with
  | none => [(run.arrival.moment, closing ++ seen)]
  | some allowed =>
    if allowed.isTooLarge then [({}, seen)]
    else if run.arrival.isLate allowed then [(run.stopMoment allowed, seen)]
    else [(run.arrival.moment, closing), (run.arrival.moment.next, seen)]

/-- What happens at the end of a run of the layer of the given name. -/
def finish (limit : Option Duration) (name : String) (run : LayerRun) :
    Except DigitLimitError (List Step) := do
  let event ← (run.result limit).event name
  return run.finishWith limit event

end LayerRun

namespace Pipeline

/-- The layers with their positions. -/
def placedLayers (pipeline : Pipeline) : List (Layer × Nat) :=
  pipeline.layers.zipIdx

/-- What happens when a layer at a position looks at a diff. -/
def steps (pipeline : Pipeline) (diff : Diff) (placed : Layer × Nat) :
    Except DigitLimitError (List LayerRun.Step) := do
  let run := placed.1.run diff
  let finish ← run.finish pipeline.limit placed.1.name
  return run.start pipeline.limit placed.2 ++ finish

/-- The effects of some steps, in the order of time. -/
def inOrder (steps : List LayerRun.Step) : List Effect :=
  (steps.mergeSort fun left right => left.1.notAfter right.1).flatMap Prod.snd

/-- What the layers do, in order. -/
def layerEffects (pipeline : Pipeline) (diff : Diff) : Except DigitLimitError (List Effect) := do
  let steps ← pipeline.placedLayers.mapM (pipeline.steps diff)
  return inOrder steps.flatten

/-- What the layers propose, in the order of the layers. -/
def proposals (pipeline : Pipeline) (diff : Diff) : List Comment :=
  pipeline.layers.flatMap fun layer => ((layer.run diff).result pipeline.limit).comments

/-- The comments on a diff. -/
def comments (pipeline : Pipeline) (diff : Diff) : List Comment :=
  Comment.merge pipeline.threshold (pipeline.proposals diff)

/-- What is logged when all layers are done. -/
def summaryEvent (pipeline : Pipeline) (diff : Diff) : Event :=
  .layersMerged pipeline.layers.length (pipeline.proposals diff).length
    (pipeline.comments diff).length

/-- The review of a diff by all layers.  Where it fails nothing has happened: a limit that is too
long to be written and can be exceeded is less than no time, so that no layer has started. -/
def run (pipeline : Pipeline) (diff : Diff) : Action (List Comment) :=
  match pipeline.layerEffects diff with
  | .ok effects =>
    { effects := effects ++ [.log (pipeline.summaryEvent diff)]
      outcome := .ok (pipeline.comments diff) }
  | .error error => Action.fail (.digits error)

end Pipeline

end DiffReview
