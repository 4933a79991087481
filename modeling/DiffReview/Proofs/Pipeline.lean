import DiffReview.Service
import DiffReview.Proofs.Comment.Merge
import DiffReview.Proofs.Number.Rounding
import DiffReview.Proofs.Text.Decimal

/-!
# What reaches the merge

The proposals of a pipeline are those of the layers that finish in time, in the order of the layers;
a layer that fails or is late takes nothing from the others.  Only where a layer is late and the
limit cannot be written does the whole review fail, and then no layer had any time.
-/

namespace DiffReview

/-! ## Limits that cannot be written -/

namespace Quantity

/-- The usual text of a number, however long that is. -/
def usualText : Quantity → String
  | whole value => toString value
  | fractional value => Number.shortestText value

/-- The number is negative and has too many digits to be written. -/
def IsUnwritable : Quantity → Prop
  | whole value => value < 0 ∧ Nat.pow 10 Text.maxDigits ≤ value.natAbs
  | fractional _ => False

/-- The shortest negative numbers with too many digits begin here. -/
theorem isUnwritable_neg_pow : (whole (-Nat.pow 10 Text.maxDigits)).IsUnwritable := by
  refine ⟨Int.neg_neg_of_pos (Int.natCast_pos.mpr ?_), ?_⟩
  · exact Nat.lt_of_lt_of_le (by decide) Text.ten_le_pow_maxDigits
  · rw [Int.natAbs_neg, Int.natAbs_natCast]

/-- A positive number with too many digits to be written is too large for a clock. -/
theorem isTooLarge_of_long {value : Int} (positive : 0 < value)
    (long : Nat.pow 10 Text.maxDigits ≤ value.natAbs) : (whole value).isTooLarge = true := by
  have digits_le : Text.maxDigits ≤ value.natAbs.log2 :=
    Number.le_log2_of_pow_ten_le (Int.natAbs_pos.mpr (Int.ne_of_gt positive)) long
  have exponent_ge : 1025 ≤ value.natAbs.log2 := Nat.le_trans (by decide) digits_le
  rw [isTooLarge, Number.isInfinite_nearestInteger positive exponent_ge, Bool.and_true]
  exact decide_eq_true positive

/-- A number that is not too large for a clock has its usual text, or it cannot be written. -/
theorem text_eq_ok {quantity : Quantity} (countable : quantity.isTooLarge = false)
    (writable : ¬quantity.IsUnwritable) : quantity.text = .ok quantity.usualText := by
  cases quantity with
  | fractional value => rfl
  | whole value =>
      refine Text.integerText_eq_ok_iff.mpr ⟨Nat.lt_of_not_le fun long => ?_, rfl⟩
      have some_size := Nat.le_trans Text.ten_le_pow_maxDigits long
      have positive : 0 < value := by
        by_contra other
        exact writable ⟨by omega, long⟩
      rw [isTooLarge_of_long positive long] at countable
      contradiction

theorem text_of_isUnwritable {quantity : Quantity} (unwritable : quantity.IsUnwritable) :
    quantity.text = .error .writing := by
  cases quantity with
  | fractional value => cases unwritable
  | whole value => exact Text.integerText_eq_error_iff.mpr ⟨unwritable.2, rfl⟩

end Quantity

namespace Duration

/-- There is no time at all, and that cannot be written. -/
def IsUnwritable (duration : Duration) : Prop :=
  duration.amount.IsUnwritable

/-- No time at all is not too much. -/
theorem isTooLarge_of_isNone {duration : Duration} (none : duration.isNone = true) :
    duration.isTooLarge = false := by
  obtain ⟨value | _, _⟩ := duration
  · by_contra too_large
    obtain ⟨positive, infinite⟩ := Bool.and_eq_true_iff.mp (Bool.not_eq_false _ ▸ too_large)
    exact Number.not_nearestInteger_le_zero (of_decide_eq_true positive) infinite
      (of_decide_eq_true none)
  · rfl

theorem isNone_of_isUnwritable {duration : Duration} (unwritable : duration.IsUnwritable) :
    duration.isNone = true := by
  obtain ⟨_ | _, _⟩ := duration
  · exact decide_eq_true (Number.nearestInteger_le_zero unwritable.1)
  · cases unwritable

end Duration

/-- What is logged about a result of a layer of the given name, with a limit in its usual text. -/
def LayerResult.usualEvent (name : String) : LayerResult → Event
  | returned comments => .layerReturned name comments.length
  | raised reason => .layerRaised name reason
  | late limit => .layerTimedOut name limit.amount.usualText

namespace LayerRun

theorem result_eq_late_iff {limit : Option Duration} {run : LayerRun} {allowed : Duration} :
    run.result limit = .late allowed ↔ limit = some allowed ∧ allowed.isTooLarge = false ∧
      run.arrival.isLate allowed = true := by
  have other : ∀ outcome, LayerResult.ofOutcome outcome ≠ .late allowed := by
    rintro (_ | _) <;> exact nofun
  cases limit with
  | none => simpa [result] using other run.outcome
  | some given =>
      rw [result]
      split_ifs with tooLarge late
      · simp only [Option.some.injEq, false_iff]
        rintro ⟨rfl, countable, -⟩
        simp [countable] at tooLarge
      · simp only [LayerResult.late.injEq, Option.some.injEq]
        constructor
        · rintro rfl
          exact ⟨rfl, by simpa using tooLarge, late⟩
        · exact And.left
      · simp only [other, Option.some.injEq, false_iff]
        rintro ⟨rfl, -, late_again⟩
        exact late late_again

/-- A limit that can be written can be logged, whatever becomes of the run. -/
theorem event_result_eq_ok {limit : Option Duration}
    (writable : ∀ allowed ∈ limit, ¬allowed.IsUnwritable) (name : String) (run : LayerRun) :
    (run.result limit).event name = .ok ((run.result limit).usualEvent name) := by
  cases result_eq : run.result limit with
  | returned comments => rfl
  | raised reason => rfl
  | late allowed =>
      obtain ⟨limit_eq, countable, -⟩ := result_eq_late_iff.mp result_eq
      have text_eq := Quantity.text_eq_ok countable (writable allowed limit_eq)
      rw [LayerResult.event, Duration.text, text_eq]
      rfl

/-- Under a limit that cannot be written every layer is late. -/
theorem result_of_isUnwritable {allowed : Duration} (unwritable : allowed.IsUnwritable)
    (run : LayerRun) : run.result (some allowed) = .late allowed :=
  have none := Duration.isNone_of_isUnwritable unwritable
  have late : run.arrival.isLate allowed = true := Bool.or_eq_true_iff.mpr (.inl none)
  result_eq_late_iff.mpr ⟨rfl, Duration.isTooLarge_of_isNone none, late⟩

/-- That a layer is late under a limit that cannot be written cannot be logged. -/
theorem event_result_of_isUnwritable {allowed : Duration} (unwritable : allowed.IsUnwritable)
    (name : String) (run : LayerRun) :
    (run.result (some allowed)).event name = .error .writing := by
  rw [result_of_isUnwritable unwritable, LayerResult.event, Duration.text,
    Quantity.text_of_isUnwritable unwritable]
  rfl

end LayerRun

namespace Pipeline

/-- There are layers, but no time for them, and that cannot be written. -/
def IsHalted (pipeline : Pipeline) : Prop :=
  pipeline.layers ≠ [] ∧ ∃ allowed ∈ pipeline.limit, allowed.IsUnwritable

/-- A limit with a fraction can always be written. -/
theorem not_isHalted_of_fractional {pipeline : Pipeline} {seconds : Number.Binary64}
    (limit_eq : pipeline.limit = some (.fractional seconds)) : ¬pipeline.IsHalted := by
  rintro ⟨-, allowed, allowed_mem, unwritable⟩
  obtain rfl : .fractional seconds = allowed := Option.some.inj (limit_eq ▸ allowed_mem)
  exact unwritable

/-- What is logged when a layer has ended, with the limit in its usual text. -/
def entry (pipeline : Pipeline) (diff : Diff) (layer : Layer) : Event :=
  ((layer.run diff).result pipeline.limit).usualEvent layer.name

/-- What happens when a layer at a position looks at a diff, with the limit in its usual text. -/
def usualSteps (pipeline : Pipeline) (diff : Diff) (placed : Layer × Nat) : List LayerRun.Step :=
  (placed.1.run diff).start pipeline.limit placed.2 ++
    (placed.1.run diff).finishWith pipeline.limit (pipeline.entry diff placed.1)

/-- What the layers do, in order, with the limit in its usual text. -/
def usualEffects (pipeline : Pipeline) (diff : Diff) : List Effect :=
  inOrder (pipeline.placedLayers.flatMap (pipeline.usualSteps diff))

theorem layerEffects_of_not_isHalted {pipeline : Pipeline} (runs : ¬pipeline.IsHalted)
    (diff : Diff) : pipeline.layerEffects diff = .ok (pipeline.usualEffects diff) := by
  have steps_eq : ∀ placed ∈ pipeline.placedLayers,
      pipeline.steps diff placed = .ok (pipeline.usualSteps diff placed) := by
    intro placed mem
    have some_layer : pipeline.layers ≠ [] :=
      List.ne_nil_of_mem (List.fst_mem_of_mem_zipIdx mem)
    have writable : ∀ allowed ∈ pipeline.limit, ¬allowed.IsUnwritable :=
      fun allowed limit_mem unwritable => runs ⟨some_layer, allowed, limit_mem, unwritable⟩
    rw [steps, LayerRun.finish, LayerRun.event_result_eq_ok writable]
    rfl
  rw [layerEffects, mapM_eq_ok_map steps_eq, usualEffects, List.flatMap_def]
  rfl

/-- A review of layers without time that cannot be written fails before anything happens. -/
theorem run_of_isHalted {pipeline : Pipeline} (halted : pipeline.IsHalted) (diff : Diff) :
    pipeline.run diff = Action.fail (.digits .writing) := by
  obtain ⟨some_layer, allowed, limit_eq, unwritable⟩ := halted
  obtain ⟨first, rest, layers_eq⟩ := List.exists_cons_of_ne_nil some_layer
  have first_eq : pipeline.steps diff (first, 0) = .error .writing := by
    rw [steps, LayerRun.finish, Option.mem_def.mp limit_eq,
      LayerRun.event_result_of_isUnwritable unwritable]
    rfl
  have failed : pipeline.layerEffects diff = .error .writing := by
    rw [layerEffects, placedLayers, layers_eq, List.zipIdx_cons, List.mapM_cons, first_eq]
    rfl
  rw [run, failed]

/-- Layers without time propose nothing. -/
theorem comments_of_isHalted {pipeline : Pipeline} (halted : pipeline.IsHalted) (diff : Diff) :
    pipeline.comments diff = [] := by
  obtain ⟨-, allowed, limit_eq, unwritable⟩ := halted
  have none_proposed : pipeline.proposals diff = [] := by
    refine List.flatMap_eq_nil_iff.mpr fun layer _ => ?_
    rw [Option.mem_def.mp limit_eq, LayerRun.result_of_isUnwritable unwritable]
    rfl
  rw [comments, none_proposed]
  exact List.sublist_nil.mp (Comment.merge_sublist _ [])

theorem run_of_not_isHalted {pipeline : Pipeline} (runs : ¬pipeline.IsHalted) (diff : Diff) :
    pipeline.run diff =
      { effects := pipeline.usualEffects diff ++ [.log (pipeline.summaryEvent diff)]
        outcome := .ok (pipeline.comments diff) } := by
  rw [run, layerEffects_of_not_isHalted runs]

end Pipeline

/-! ## Layers that finish -/

/-- A layer returns comments on a diff before its time is over. -/
def Layer.FinishesWithin (limit : Option Duration) (layer : Layer) (diff : Diff) : Prop :=
  ∃ comments, (layer.run diff).result limit = .returned comments

namespace LayerRun

/-- A layer returns what it proposes if there is no limit, or one that is not too large for a clock
and that it keeps to. -/
theorem result_eq_returned_iff {limit : Option Duration} {run : LayerRun}
    {comments : List Comment} :
    run.result limit = .returned comments ↔ run.outcome = .ok comments ∧
      ∀ allowed ∈ limit, allowed.isTooLarge = false ∧ run.arrival.isLate allowed = false := by
  have ofOutcome_eq_iff :
      LayerResult.ofOutcome run.outcome = .returned comments ↔ run.outcome = .ok comments := by
    cases run.outcome <;> simp [LayerResult.ofOutcome]
  cases limit with
  | none => simpa [result] using ofOutcome_eq_iff
  | some allowed =>
      simp only [result, Option.mem_def, Option.some.injEq, forall_eq']
      split_ifs with tooLarge late
      · simp [tooLarge]
      · simp [late]
      · simp [ofOutcome_eq_iff, tooLarge, late]

/-- A layer that finishes returns what it proposes, and nothing else. -/
theorem outcome_of_result_eq_returned {limit : Option Duration} {run : LayerRun}
    {comments : List Comment} (returned : run.result limit = .returned comments) :
    run.outcome = .ok comments :=
  (result_eq_returned_iff.mp returned).1

end LayerRun

namespace Pipeline

/-- Where a layer finishes, there was time. -/
theorem not_isHalted_of_finishesWithin {pipeline : Pipeline} {diff : Diff} {layer : Layer}
    (finishes : layer.FinishesWithin pipeline.limit diff) : ¬pipeline.IsHalted := by
  rintro ⟨-, allowed, limit_eq, unwritable⟩
  obtain ⟨comments, returned⟩ := finishes
  have failed := LayerRun.event_result_of_isUnwritable unwritable layer.name (layer.run diff)
  rw [← Option.mem_def.mp limit_eq, returned] at failed
  cases failed

/-- The comments of a layer that finishes are among the proposals. -/
theorem mem_proposals_of_returned {pipeline : Pipeline} {diff : Diff} {layer : Layer}
    (layer_mem : layer ∈ pipeline.layers) {comments : List Comment}
    (returned : (layer.run diff).result pipeline.limit = .returned comments) {comment : Comment}
    (comment_mem : comment ∈ comments) : comment ∈ pipeline.proposals diff := by
  refine List.mem_flatMap.mpr ⟨layer, layer_mem, ?_⟩
  rw [returned]
  exact comment_mem

/-- The comments of the first layer come first. -/
theorem proposals_of_head? {pipeline : Pipeline} {diff : Diff} {layer : Layer}
    (first : pipeline.layers.head? = some layer) {comments : List Comment}
    (returned : (layer.run diff).result pipeline.limit = .returned comments) :
    ∃ others, pipeline.proposals diff = comments ++ others := by
  obtain ⟨rest, layers_eq⟩ := List.head?_eq_some_iff.mp first
  refine ⟨rest.flatMap fun layer => ((layer.run diff).result pipeline.limit).comments, ?_⟩
  rw [proposals, layers_eq, List.flatMap_cons, returned, LayerResult.comments]

end Pipeline

namespace Service

/-- A readable text is reviewed: by the pipeline if it adds a line, and else by nobody. -/
theorem outcome_analyze (service : Service) {text : String} {reading : DiffReading}
    (readable : Diff.read text = .ok reading) :
    (service.analyze text).outcome =
      if reading.diff.hasAdditions then (service.pipeline.run reading.diff).outcome
      else .ok [] := by
  have read_outcome : (readDiff text).outcome = .ok reading.diff := by
    rw [readDiff, readable]
    change (Action.andThen _ _).outcome = _
    by_cases skips : 0 < reading.skipped
    · simp only [Action.andThen, Action.ofDigits, Action.pure_outcome, if_pos skips]
      rfl
    · simp only [Action.andThen, Action.ofDigits, Action.pure_outcome, if_neg skips]
  rw [analyze, Action.bind_of_ok read_outcome]
  by_cases adds : reading.diff.hasAdditions = true
  · rw [if_pos adds, if_pos adds]
  · rw [if_neg adds, if_neg adds]
    rfl

/-- A service whose layers run has the comments of its pipeline on a text that adds a line. -/
theorem outcome_analyze_of_runs {service : Service} {text : String} {reading : DiffReading}
    (readable : Diff.read text = .ok reading) (runs : ¬service.pipeline.IsHalted) :
    (service.analyze text).outcome =
      .ok (if reading.diff.hasAdditions then service.pipeline.comments reading.diff else []) := by
  rw [outcome_analyze service readable, Pipeline.run_of_not_isHalted runs]
  split <;> rfl

end Service

end DiffReview
