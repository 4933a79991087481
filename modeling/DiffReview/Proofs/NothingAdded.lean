import DiffReview.Proofs.Comment.Precedence
import DiffReview.Proofs.Findings
import DiffReview.Proofs.Handling
import DiffReview.Proofs.Provenance

/-!
# Where nothing is added

A service shows a diff without added lines to no layer.  All that is lost by that is churn: rules
and models would find nothing in such a diff, and no model would be asked, but a check of limits
would still remark on files that lose many lines.
-/

namespace DiffReview

open Number (Binary64)

/-! ## Each reviewer alone -/

theorem Diff.reviewableFiles_of_nothing_added {diff : Diff}
    (adds_none : diff.hasAdditions = false) : diff.reviewableFiles = [] := by
  have none_left : diff.files.filter FileDiff.isReviewable = [] := by
    rw [List.filter_eq_nil_iff]
    intro file file_mem
    simp [FileDiff.isReviewable, additions_of_nothing_added adds_none file_mem]
  simp [reviewableFiles, none_left]

theorem ModelReviewer.review_of_nothing_added {diff : Diff} (adds_none : diff.hasAdditions = false)
    (reviewer : ModelReviewer) :
    reviewer.review diff = { closing := [.nothingReviewable], outcome := .ok [] } := by
  have no_summary : diff.summary reviewer.options = .ok "" := by
    rw [Diff.summary, Summary.sections, Diff.reviewableFiles_of_nothing_added adds_none]
    rfl
  rw [review, no_summary]
  rfl

/-- The comment that a file has lost many lines. -/
def FileDiff.churnWarning (file : FileDiff) : Comment :=
  let size := file.deletions
  { filename := file.filename
    line := 1
    body :=
      s!"High file churn ({size} changed lines); consider splitting this into smaller changes."
    severity := .warning
    source := "heuristic" }

/-- The comments on the files that lose more lines than the limit on churn. -/
def Limits.lossWarnings (limits : Limits) (diff : Diff) : List Comment :=
  (diff.files.filter fun file => limits.fileChurn < file.deletions).map FileDiff.churnWarning

/-- Where nothing is added, limits are exceeded by the files that lose too many lines. -/
theorem Limits.check_of_nothing_added {limits : Limits} (nonnegative : 0 ≤ limits.totalAdditions)
    {diff : Diff} (adds_none : diff.hasAdditions = false) :
    limits.check diff = .ok (limits.lossWarnings diff) := by
  have of_file : ∀ file ∈ diff.files, (limits.checkChurn file).map Finding.stated =
      if limits.fileChurn < file.deletions then [file.churnWarning] else [] := by
    intro file file_mem
    have churn_eq : file.churn = file.deletions := by
      rw [FileDiff.churn, Diff.additions_of_nothing_added adds_none file_mem, Nat.zero_add]
    rw [checkChurn, churn_eq]
    split <;> rfl
  have writable : ∀ finding ∈ diff.files.flatMap limits.checkChurn,
      finding.excess.IsWritable := by
    intro finding mem
    obtain ⟨file, -, in_file⟩ := List.mem_flatMap.mp mem
    exact Excess.isWritable_of_kind_ne (by simp [kind_of_mem_checkChurn in_file])
  rw [check, findings_of_nothing_added nonnegative adds_none]
  refine Finding.mapM_comment_eq_ok_iff.mpr ⟨writable, ?_⟩
  rw [lossWarnings, List.map_flatMap, List.flatMap_congr of_file]
  induction diff.files with
  | nil => rfl
  | cons file files induction =>
      rw [List.flatMap_cons, ← induction]
      split <;> simp [*]

/-- The limits that a reviewer goes by. -/
def Reviewer.limits? : Reviewer → Option Limits
  | limits given => some given
  | _ => none

/-- A reviewer does nothing before it answers. -/
theorem Reviewer.opening_of_nothing_added {diff : Diff} (adds_none : diff.hasAdditions = false)
    (reviewer : Reviewer) : (reviewer.layer.run diff).opening = [] := by
  cases reviewer with
  | rules rules => rfl
  | limits limits => exact Layer.opening_run_ofLimits limits diff
  | model model =>
      have silent : (model.review diff).opening = [] := by
        rw [model.review_of_nothing_added adds_none]
      exact silent

/-- Only limits can be exceeded. -/
theorem Reviewer.outcome_of_nothing_added {diff : Diff} (adds_none : diff.hasAdditions = false)
    {reviewer : Reviewer} (nonnegative : ∀ limits ∈ reviewer.limits?, 0 ≤ limits.totalAdditions) :
    (reviewer.layer.run diff).outcome =
      .ok (reviewer.limits?.toList.flatMap fun limits => limits.lossWarnings diff) := by
  cases reviewer with
  | rules rules => exact congrArg Except.ok (Rule.scan_of_nothing_added adds_none rules)
  | limits limits =>
      have checked := Limits.check_of_nothing_added (nonnegative limits rfl) adds_none
      have outcome_eq : ((Layer.ofLimits limits).run diff).outcome =
          .ok (limits.lossWarnings diff ++ []) := by
        rw [Layer.outcome_run_ofLimits, checked, List.append_nil]
        rfl
      exact outcome_eq
  | model model =>
      have silent : (model.review diff).outcome = .ok [] := by
        rw [model.review_of_nothing_added adds_none]
      exact silent

/-! ## All reviewers together -/

theorem LayerRun.mem_opening_of_mem_ownEffects {limit : Option Duration} {name : String}
    {run : LayerRun} {question : Question}
    (mem : .ask question ∈ run.ownEffects limit name) : .ask question ∈ run.opening := by
  cases limit with
  | none => simpa [ownEffects] using mem
  | some allowed =>
      simp only [ownEffects, List.mem_append, List.mem_singleton, reduceCtorEq, or_false] at mem
      rcases mem with mem | mem
      · split at mem
        · exact mem
        · contradiction
      · split at mem
        · contradiction
        · simp at mem

/-- A layer that is not late ends as it does without a limit, if the clock can count that far. -/
theorem LayerRun.result_eq_ofOutcome {limit : Option Duration} {run : LayerRun}
    (countable : ∀ allowed ∈ limit, ¬allowed.isTooLarge)
    (in_time : ∀ allowed, run.result limit ≠ .late allowed) :
    run.result limit = .ofOutcome run.outcome := by
  cases limit with
  | none => rfl
  | some allowed =>
      have on_time := in_time allowed
      rw [result, if_neg (countable allowed rfl)] at on_time ⊢
      split at on_time
      · contradiction
      · rename_i punctual
        rw [if_neg punctual]

namespace Service

section Layers

variable {service : Service} {reviewers : List Reviewer} {diff : Diff}
  (built : service.layers = reviewers.map Reviewer.layer) (adds_none : diff.hasAdditions = false)

include built adds_none

/-- Without added lines, no model is asked. -/
theorem not_mem_effects_run_of_nothing_added (question : Question) :
    .ask question ∉ (service.pipeline.run diff).effects := by
  intro mem
  by_cases halted : service.pipeline.IsHalted
  · rw [Pipeline.run_of_isHalted halted] at mem
    exact List.not_mem_nil mem
  rw [Pipeline.run_of_not_isHalted halted] at mem
  rcases List.mem_append.mp mem with mem | mem
  · rw [(perm_usualEffects service diff).mem_iff, List.mem_append] at mem
    rcases mem with called | worked
    · rw [calls] at called
      split at called <;> simp at called
    · obtain ⟨layer, layer_mem, own⟩ := List.mem_flatMap.mp worked
      rw [built] at layer_mem
      obtain ⟨reviewer, -, rfl⟩ := List.mem_map.mp layer_mem
      have opened := LayerRun.mem_opening_of_mem_ownEffects own
      simp [reviewer.opening_of_nothing_added adds_none] at opened
  · simp at mem

/-- Without added lines, the proposals are those of the limits. -/
theorem proposals_of_nothing_added
    (nonnegative : ∀ limits ∈ reviewers.filterMap Reviewer.limits?, 0 ≤ limits.totalAdditions)
    (countable : ∀ allowed ∈ service.limit, ¬allowed.isTooLarge)
    (in_time : ∀ layer ∈ service.layers, ∀ allowed,
      (layer.run diff).result service.limit ≠ .late allowed) :
    service.pipeline.proposals diff =
      (reviewers.filterMap Reviewer.limits?).flatMap fun limits => limits.lossWarnings diff := by
  have of_reviewer : ∀ reviewer ∈ reviewers,
      ((reviewer.layer.run diff).result service.limit).comments =
        reviewer.limits?.toList.flatMap fun limits => limits.lossWarnings diff := by
    intro reviewer reviewer_mem
    have layer_mem : reviewer.layer ∈ service.layers := by
      rw [built]
      exact List.mem_map_of_mem reviewer_mem
    have bounds : ∀ limits ∈ reviewer.limits?, 0 ≤ limits.totalAdditions := fun limits mem =>
      nonnegative limits (List.mem_filterMap.mpr ⟨reviewer, reviewer_mem, mem⟩)
    rw [LayerRun.result_eq_ofOutcome countable (in_time _ layer_mem),
      Reviewer.outcome_of_nothing_added adds_none bounds]
    rfl
  rw [Pipeline.proposals, pipeline, built, List.flatMap_map]
  refine (List.flatMap_congr of_reviewer).trans ?_
  rw [← List.flatMap_assoc, List.filterMap_eq_flatMap_toList]

end Layers

/-- Where no layer is late, none is without time. -/
theorem not_isHalted_of_in_time {service : Service} {diff : Diff}
    (in_time : ∀ layer ∈ service.layers, ∀ allowed,
      (layer.run diff).result service.limit ≠ .late allowed) : ¬service.pipeline.IsHalted := by
  rintro ⟨some_layer, allowed, limit_eq, unwritable⟩
  obtain ⟨layer, layer_mem⟩ := List.exists_mem_of_ne_nil _ some_layer
  have limit_eq : service.limit = some allowed := limit_eq
  refine in_time layer layer_mem allowed ?_
  rw [limit_eq, LayerRun.result_of_isUnwritable unwritable]

/-- A diff without added lines is not reviewed.  If its reviewers were heard all the same, no model
would be asked, and each file that loses too many lines would be warned of: once for each name, for
the first section of that name that does. -/
theorem analyze_of_nothing_added {service : Service} {reviewers : List Reviewer}
    (built : service.layers = reviewers.map Reviewer.layer) {given : Option Limits}
    (single : reviewers.filterMap Reviewer.limits? = given.toList)
    (nonnegative : ∀ limits ∈ given, 0 ≤ limits.totalAdditions) {text : String}
    {reading : DiffReading} (readable : Diff.read text = .ok reading)
    (adds_none : reading.diff.hasAdditions = false)
    (countable : ∀ allowed ∈ service.limit, ¬allowed.isTooLarge)
    (in_time : ∀ layer ∈ service.layers, ∀ allowed,
      (layer.run reading.diff).result service.limit ≠ .late allowed) :
    (service.analyze text).outcome = .ok [] ∧
    (∀ question, .ask question ∉ (service.pipeline.run reading.diff).effects) ∧
    ∃ comments, (service.pipeline.run reading.diff).outcome = .ok comments ∧
      (given = none → comments = []) ∧
      ∀ limits ∈ given,
        (comments = [] ↔ ∀ file ∈ reading.diff.files, file.deletions ≤ limits.fileChurn) ∧
        comments =
          ((reading.diff.files.filter fun file => limits.fileChurn < file.deletions).eraseDupsBy
            fun left right => left.filename == right.filename).map FileDiff.churnWarning := by
  have proposed := proposals_of_nothing_added built adds_none (by simpa [single] using nonnegative)
    countable in_time
  rw [single] at proposed
  have runs := not_isHalted_of_in_time in_time
  have outcome_eq : (service.pipeline.run reading.diff).outcome =
      .ok (service.pipeline.comments reading.diff) := by
    rw [Pipeline.run_of_not_isHalted runs]
  refine ⟨?_, not_mem_effects_run_of_nothing_added built adds_none, _, outcome_eq, ?_, ?_⟩
  · rw [outcome_analyze service readable, adds_none]
    rfl
  · rintro rfl
    rw [Pipeline.comments, proposed, Comment.merge_eq_prevailing]
    rfl
  · rintro limits ⟨⟩
    have warnings : service.pipeline.comments reading.diff =
        ((reading.diff.files.filter fun file => limits.fileChurn < file.deletions).eraseDupsBy
          fun left right => left.filename == right.filename).map FileDiff.churnWarning := by
      have severity_eq : ∀ file : FileDiff, file.churnWarning.severity = .warning := fun _ => rfl
      -- All warnings are at the first line, so that only the names tell their places apart.
      have at_name : ∀ left right : FileDiff,
          (left.churnWarning.location == right.churnWarning.location) =
            (left.filename == right.filename) := by
        intro left right
        rw [Bool.eq_iff_iff]
        simp [Comment.location, FileDiff.churnWarning]
      rw [Pipeline.comments, proposed, Option.toList_some, List.flatMap_singleton,
        Limits.lossWarnings, Comment.merge_map_of_equal_severity _ severity_eq]
      simp only [at_name]
    refine ⟨?_, warnings⟩
    have none_exceeds : (∀ file ∈ reading.diff.files, file.deletions ≤ limits.fileChurn) ↔
        (reading.diff.files.filter fun file => limits.fileChurn < file.deletions) = [] := by
      simp [List.filter_eq_nil_iff]
    rw [warnings, none_exceeds, List.map_eq_nil_iff]
    cases reading.diff.files.filter fun file => limits.fileChurn < file.deletions with
    | nil => exact iff_of_true rfl rfl
    | cons file files => simp [List.eraseDupsBy_cons]

/-- Of two sections of one name that lose too many lines, the first one is warned of. -/
theorem analyze_of_nothing_added_repeated_name :
    let limits : Limits := { fileChurn := 1 }
    let reviewers : List Reviewer :=
      [.rules [.debuggerStatement], .model { model := fun _ => .silence, nesting := 900 },
        .limits limits]
    let service : Service := { layers := reviewers.map Reviewer.layer }
    let text := "diff --git a/x b/x\n@@ -1,2 +0,0 @@\n-a\n-b\n" ++
      "diff --git a/y b/y\n@@ -1 +0,0 @@\n-c\n" ++
      "diff --git a/x b/x\n@@ -7,3 +6,0 @@\n-a\n-b\n-c"
    ∃ reading, Diff.read text = .ok reading ∧ reading.diff.hasAdditions = false ∧
      (∀ allowed ∈ service.limit, ¬allowed.isTooLarge) ∧
      (∀ layer ∈ service.layers, ∀ allowed,
        (layer.run reading.diff).result service.limit ≠ .late allowed) ∧
      (service.analyze text).outcome = .ok [] ∧
      (∀ question, .ask question ∉ (service.pipeline.run reading.diff).effects) ∧
      (service.pipeline.run reading.diff).outcome =
        .ok [{
          filename := "x"
          line := 1
          body := "High file churn (2 changed lines); consider splitting this into smaller changes."
          severity := .warning
          source := "heuristic" }] := by
  intro limits reviewers service text
  let first : FileDiff :=
    { filename := "x", status := .modified, hunks := [
      { header := "@@ -1,2 +0,0 @@", oldStart := 1, oldCount := 2, newStart := 0, newCount := 0,
        lines := [.removed "a" 1, .removed "b" 2] }] }
  let second : FileDiff :=
    { filename := "y", status := .modified, hunks := [
      { header := "@@ -1 +0,0 @@", oldStart := 1, oldCount := 1, newStart := 0, newCount := 0,
        lines := [.removed "c" 1] }] }
  let third : FileDiff :=
    { filename := "x", status := .modified, hunks := [
      { header := "@@ -7,3 +6,0 @@", oldStart := 7, oldCount := 3, newStart := 6, newCount := 0,
        lines := [.removed "a" 7, .removed "b" 8, .removed "c" 9] }] }
  let reading : DiffReading := ⟨⟨[first, second, third]⟩, 0⟩
  have readable : Diff.read text = .ok reading := by decide +kernel
  have adds_none : reading.diff.hasAdditions = false := by decide
  have countable : ∀ allowed ∈ service.limit, ¬allowed.isTooLarge := by decide
  have in_time : ∀ layer ∈ service.layers, ∀ allowed,
      (layer.run reading.diff).result service.limit ≠ .late allowed := by
    have finishes :
        ∀ layer ∈ service.layers, layer.FinishesWithin service.limit reading.diff := by
      decide +kernel
    intro layer layer_mem allowed is_late
    obtain ⟨comments, returned⟩ := finishes layer layer_mem
    exact nomatch is_late.symm.trans returned
  have built : service.layers = reviewers.map Reviewer.layer := rfl
  have single : reviewers.filterMap Reviewer.limits? = (some limits).toList := rfl
  have nonnegative : ∀ given ∈ some limits, 0 ≤ given.totalAdditions := by decide
  obtain ⟨analyzed, unasked, comments, outcome, -, warned⟩ :=
    analyze_of_nothing_added built single nonnegative readable adds_none countable in_time
  refine ⟨reading, readable, adds_none, countable, in_time, analyzed, unasked, ?_⟩
  rw [outcome, (warned limits rfl).2]
  exact congrArg Except.ok (by decide +kernel)

end Service

end DiffReview
