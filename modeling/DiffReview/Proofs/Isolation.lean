import DiffReview.Proofs.Comment.Precedence
import DiffReview.Proofs.Pipeline
import Mathlib.Data.List.Perm.Basic

/-!
# Layers do not disturb each other

A review is made of the lists that layers return, in the order of the layers; when a layer has its
answer, and whether others fail or are late, has no influence.  The log has one entry for each layer
and one for the whole review.  Further layers add comments, but take away only what they surpass.
-/

namespace DiffReview

namespace LayerResult

/-- The comments, if the layer returned any list of them. -/
def returned? : LayerResult → Option (List Comment)
  | returned comments => some comments
  | _ => none

theorem returned?_eq_some_iff {result : LayerResult} {comments : List Comment} :
    result.returned? = some comments ↔ result = returned comments := by
  cases result <;> simp [returned?]

theorem comments_eq_getD (result : LayerResult) : result.comments = result.returned?.getD [] := by
  cases result <;> rfl

end LayerResult

namespace Layer

theorem finishesWithin_iff_isSome {limit : Option Duration} {layer : Layer} {diff : Diff} :
    layer.FinishesWithin limit diff ↔ ((layer.run diff).result limit).returned?.isSome := by
  simp [FinishesWithin, Option.isSome_iff_exists, LayerResult.returned?_eq_some_iff]

instance (limit : Option Duration) (layer : Layer) (diff : Diff) :
    Decidable (layer.FinishesWithin limit diff) :=
  decidable_of_iff _ finishesWithin_iff_isSome.symm

end Layer

/-! ## The log -/

namespace LayerRun

/-- The events that the layer logs itself: those before it waits, if its time is enough to start,
and those at its end, if it is in time. -/
def ownEvents (limit : Option Duration) (run : LayerRun) : List Event :=
  match limit with
  | none => run.opening.filterMap Effect.event? ++ run.closing
  | some allowed =>
    (run.openingWithin allowed 0).filterMap Effect.event? ++
      if allowed.isTooLarge || run.arrival.isLate allowed then [] else run.closing

theorem filterMap_event?_openingWithin (allowed : Duration) (position : Nat) (run : LayerRun) :
    (run.openingWithin allowed position).filterMap Effect.event? =
      (run.openingWithin allowed 0).filterMap Effect.event? := by
  unfold openingWithin
  split_ifs <;> rfl

/-- Each layer leaves its own events and then one entry that tells how it ended. -/
theorem filterMap_event?_steps (limit : Option Duration) (position : Nat) (event : Event)
    (run : LayerRun) :
    ((run.start limit position ++ run.finishWith limit event).flatMap Prod.snd).filterMap
        Effect.event? =
      run.ownEvents limit ++ [event] := by
  have logged : Effect.event? ∘ Effect.log = some := rfl
  cases limit with
  | none =>
      simp [start, finishWith, ownEvents, List.filterMap_cons, List.filterMap_map, Effect.event?,
        logged]
  | some allowed =>
      have opening := filterMap_event?_openingWithin allowed position run
      by_cases tooLarge : allowed.isTooLarge
      · simp [start, finishWith, ownEvents, tooLarge, opening, Effect.event?]
      · by_cases late : run.arrival.isLate allowed
        · simp [start, finishWith, ownEvents, tooLarge, late, opening, Effect.event?]
        · simp [start, finishWith, ownEvents, tooLarge, late, opening, List.filterMap_map, logged,
            Effect.event?]

end LayerRun

namespace Pipeline

theorem entry_of_finishesWithin {pipeline : Pipeline} {diff : Diff} {layer : Layer}
    (finishes : layer.FinishesWithin pipeline.limit diff) :
    ∃ comments, (layer.run diff).result pipeline.limit = .returned comments ∧
      pipeline.entry diff layer = .layerReturned layer.name comments.length ∧
        (pipeline.entry diff layer).level = .debug := by
  obtain ⟨comments, returned⟩ := finishes
  have entry_eq : pipeline.entry diff layer = .layerReturned layer.name comments.length := by
    rw [entry, returned, LayerResult.usualEvent]
  exact ⟨comments, returned, entry_eq, by rw [entry_eq, Event.level]⟩

theorem level_entry_of_not_finishesWithin {pipeline : Pipeline} {diff : Diff} {layer : Layer}
    (fails : ¬layer.FinishesWithin pipeline.limit diff) :
    (pipeline.entry diff layer).level = .warning := by
  rw [entry]
  cases result : (layer.run diff).result pipeline.limit with
  | returned comments => exact absurd ⟨comments, result⟩ fails
  | raised reason => rfl
  | late limit => rfl

theorem filterMap_event?_steps (pipeline : Pipeline) (diff : Diff) :
    ((pipeline.placedLayers.flatMap (pipeline.usualSteps diff)).flatMap Prod.snd).filterMap
        Effect.event? =
      pipeline.layers.flatMap fun layer =>
        (layer.run diff).ownEvents pipeline.limit ++ [pipeline.entry diff layer] := by
  have oneLayer : ∀ placed : Layer × Nat,
      ((pipeline.usualSteps diff placed).flatMap Prod.snd).filterMap Effect.event? =
        (placed.1.run diff).ownEvents pipeline.limit ++ [pipeline.entry diff placed.1] :=
    fun placed => LayerRun.filterMap_event?_steps pipeline.limit placed.2 _ _
  calc
    _ = pipeline.placedLayers.flatMap fun placed =>
          (placed.1.run diff).ownEvents pipeline.limit ++ [pipeline.entry diff placed.1] := by
        rw [List.flatMap_assoc, List.filterMap_flatMap]
        exact List.flatMap_congr fun placed _ => oneLayer placed
    _ = (pipeline.placedLayers.map Prod.fst).flatMap fun layer =>
          (layer.run diff).ownEvents pipeline.limit ++ [pipeline.entry diff layer] := by
        rw [List.flatMap_map]
    _ = _ := by rw [placedLayers, List.zipIdx_map_fst]

/-- The layers are heard in the order of time, but nothing is lost or added by that. -/
theorem perm_filterMap_event?_usualEffects (pipeline : Pipeline) (diff : Diff) :
    ((pipeline.usualEffects diff).filterMap Effect.event?).Perm
      (pipeline.layers.flatMap (fun layer => (layer.run diff).ownEvents pipeline.limit) ++
        pipeline.layers.map (pipeline.entry diff)) := by
  have in_order : ((pipeline.usualEffects diff).filterMap Effect.event?).Perm
      (((pipeline.placedLayers.flatMap (pipeline.usualSteps diff)).flatMap Prod.snd).filterMap
        Effect.event?) :=
    ((List.mergeSort_perm _ _).flatMap_right Prod.snd).filterMap Effect.event?
  rw [filterMap_event?_steps] at in_order
  rw [List.map_eq_flatMap]
  exact in_order.trans (List.flatMap_append_perm _ _ _).symm

theorem events_run {pipeline : Pipeline} (runs : ¬pipeline.IsHalted) (diff : Diff) :
    (pipeline.run diff).events =
      (pipeline.usualEffects diff).filterMap Effect.event? ++ [pipeline.summaryEvent diff] := by
  rw [run_of_not_isHalted runs, Action.events, List.filterMap_append]
  rfl

/-! ## Layers that fail -/

/-- The lists that layers returned, in the order of the layers. -/
def returned (pipeline : Pipeline) (diff : Diff) : List (List Comment) :=
  pipeline.layers.filterMap fun layer => ((layer.run diff).result pipeline.limit).returned?

/-- The pipeline with other layers. -/
def withLayers (pipeline : Pipeline) (layers : List Layer) : Pipeline :=
  { pipeline with layers }

theorem proposals_eq_flatten (pipeline : Pipeline) (diff : Diff) :
    pipeline.proposals diff = (pipeline.returned diff).flatten := by
  rw [proposals, returned]
  induction pipeline.layers with
  | nil => rfl
  | cons layer layers induction =>
      rw [List.flatMap_cons, induction, LayerResult.comments_eq_getD]
      cases given : ((layer.run diff).result pipeline.limit).returned? <;>
        simp [given]

theorem outcome_run {pipeline : Pipeline} (runs : ¬pipeline.IsHalted) (diff : Diff) :
    (pipeline.run diff).outcome =
      .ok (Comment.merge pipeline.threshold (pipeline.returned diff).flatten) := by
  rw [run_of_not_isHalted runs, ← proposals_eq_flatten]
  rfl

/-- Without layers that were not there before, nothing is halted that was not. -/
theorem not_isHalted_withLayers {pipeline : Pipeline} (runs : ¬pipeline.IsHalted)
    {layers : List Layer} (fewer : pipeline.layers = [] → layers = []) :
    ¬(pipeline.withLayers layers).IsHalted :=
  fun ⟨some_layer, unwritable⟩ => runs ⟨fun none_there => some_layer (fewer none_there), unwritable⟩

/-- Under a limit that is too large for a clock no layer returns anything. -/
theorem returned_of_isTooLarge {pipeline : Pipeline} {allowed : Duration} {diff : Diff}
    (limit_eq : pipeline.limit = some allowed) (too_large : allowed.isTooLarge = true) :
    pipeline.returned diff = [] := by
  refine List.filterMap_eq_nil_iff.mpr fun layer _ => ?_
  rw [limit_eq, LayerRun.result, if_pos too_large]
  rfl

theorem returned_filter (pipeline : Pipeline) (diff : Diff) :
    (pipeline.withLayers (pipeline.layers.filter fun layer =>
      layer.FinishesWithin pipeline.limit diff)).returned diff = pipeline.returned diff := by
  simp only [returned, withLayers, Layer.finishesWithin_iff_isSome, List.filterMap_filter]
  apply List.filterMap_congr
  intro layer _
  cases given : ((layer.run diff).result pipeline.limit).returned? <;> simp

theorem comments_result_of_outcome_nil {limit : Option Duration} {layerRun : LayerRun}
    (silent : layerRun.outcome = .ok []) : (layerRun.result limit).comments = [] := by
  cases result : layerRun.result limit with
  | returned comments =>
      have proposed := LayerRun.outcome_of_result_eq_returned result
      rw [silent] at proposed
      exact (Except.ok.inj proposed).symm
  | raised reason => rfl
  | late allowed => rfl

theorem flatten_returned_map_silent (pipeline : Pipeline) {diff : Diff} {silent : Layer → Layer}
    (says_nothing : ∀ layer, ((silent layer).run diff).outcome = .ok []) :
    ((pipeline.withLayers (pipeline.layers.map fun layer =>
      if layer.FinishesWithin pipeline.limit diff then layer else silent layer)).returned
        diff).flatten = (pipeline.returned diff).flatten := by
  rw [← proposals_eq_flatten, ← proposals_eq_flatten, proposals, proposals, withLayers,
    List.flatMap_map]
  apply List.flatMap_congr
  intro layer _
  split
  · rfl
  · rename_i fails
    rw [comments_result_of_outcome_nil (says_nothing layer)]
    cases result : (layer.run diff).result pipeline.limit with
    | returned comments => exact absurd ⟨comments, result⟩ fails
    | raised reason => rfl
    | late limit => rfl

theorem comments_append (pipeline : Pipeline) (more : List Layer) (diff : Diff) :
    (pipeline.withLayers (pipeline.layers ++ more)).comments diff =
      Comment.merge pipeline.threshold
        (pipeline.proposals diff ++ (pipeline.withLayers more).proposals diff) := by
  simp only [comments, proposals, withLayers, List.flatMap_append]

end Pipeline

end DiffReview
