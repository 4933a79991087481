import DiffReview.ModelReviewer
import DiffReview.Proofs.Detection
import DiffReview.Proofs.Findings
import DiffReview.Proofs.Reply.Acceptance

/-!
# Where comments come from

Every comment of a review speaks of a file of the diff, and its source tells what can be found
there: a rule that fires on an added line, a measurement beyond its limit, or an entry of a reply
that has passed all checks.  No reply, failure or delay of a model changes that.
-/

namespace DiffReview

open Text (IsTrimmed isTrimmed_trim isWhiteSpace)

namespace Diff

/-- A line that has the given number is added in a section of the given file. -/
def AddsLine (diff : Diff) (filename : String) (number : Nat) : Prop :=
  ∃ file ∈ diff.files, file.filename = filename ∧ ∃ content, (content, number) ∈ file.addedLines

theorem AddsLine.mem_filenames {diff : Diff} {filename : String} {number : Nat}
    (adds : diff.AddsLine filename number) : filename ∈ diff.filenames := by
  obtain ⟨file, file_mem, rfl, -⟩ := adds
  exact List.mem_map_of_mem file_mem

theorem exists_head?_of_hasAdditions {diff : Diff} (adds : diff.hasAdditions = true) :
    ∃ first, diff.files.head? = some first := by
  cases diff with
  | mk files =>
      cases files with
      | nil => simp [hasAdditions, additions] at adds
      | cons first rest => exact ⟨first, rfl⟩

end Diff

theorem Rule.FiresAt.addsLine {rule : Rule} {diff : Diff} {filename : String} {number : Nat}
    (fires : rule.FiresAt diff filename number) : diff.AddsLine filename number := by
  obtain ⟨file, file_mem, filename_eq, content, line_mem, -⟩ := fires
  exact ⟨file, file_mem, filename_eq, content, line_mem⟩

/-! ## Limits -/

namespace Limits

/-- What a comment on a measurement beyond its limit says, and where.  A long function is only
reported with a limit that can be written. -/
inductive Reports (limits : Limits) (diff : Diff) : Comment → Prop
  | churn {file : FileDiff} {size : Nat} (file_mem : file ∈ diff.files)
      (size_eq : size = file.additions + file.deletions) (exceeds : limits.fileChurn < size) :
      Reports limits diff {
        filename := file.filename
        line := 1
        body :=
          s!"High file churn ({size} changed lines); consider splitting this into smaller changes."
        severity := .warning
        source := "heuristic" }
  | longFunction {filename : String} {start size : Nat} {most : Int}
      (adds : diff.AddsLine filename start) (most_eq : most = limits.functionLines)
      (exceeds : most < size) (writable : most.natAbs < Nat.pow 10 Text.maxDigits) :
      Reports limits diff {
        filename
        line := start
        body :=
          s!"Function is {size} lines long (limit: {most}); consider extracting smaller functions."
        severity := .warning
        source := "heuristic" }
  | deepNesting {filename : String} {number depth : Nat} (adds : diff.AddsLine filename number)
      (exceeds : limits.nestingDepth < depth) :
      Reports limits diff {
        filename
        line := number
        body :=
          s!"Deeply nested code (depth {depth}); consider early returns or extracting helpers."
        severity := .info
        source := "heuristic" }
  | largeChange {first : FileDiff} (is_first : diff.files.head? = some first)
      (exceeds : limits.totalAdditions < diff.additions) :
      Reports limits diff {
        filename := first.filename
        line := 1
        body :=
          s!"Large change: {diff.additions} additions across {diff.files.length} file(s); " ++
            "consider breaking it into smaller pull requests."
        severity := .warning
        source := "heuristic" }

variable {limits : Limits} {diff : Diff} {comment : Comment}

theorem Reports.mem_filenames (reports : limits.Reports diff comment) :
    comment.filename ∈ diff.filenames := by
  cases reports with
  | churn file_mem => exact List.mem_map_of_mem file_mem
  | longFunction adds => exact adds.mem_filenames
  | deepNesting adds => exact adds.mem_filenames
  | largeChange is_first => exact List.mem_map_of_mem (List.mem_of_mem_head? is_first)

theorem Reports.source_eq (reports : limits.Reports diff comment) :
    comment.source = "heuristic" := by
  cases reports <;> rfl

end Limits

/-- A function starts at one of the lines, unless it was open before them. -/
theorem start_of_mem_functionSpans {state : Option OpenFunction} {lines : List (String × Nat)}
    {span : Nat × Nat} (mem : span ∈ functionSpans state lines) :
    span.1 ∈ state.map OpenFunction.start ∨ span.1 ∈ lines.map Prod.snd := by
  fun_induction functionSpans state lines with
  | case1 => simp at mem
  | case2 content line rest starts induction =>
      right
      rcases induction mem with opened | later
      · have first : line = span.1 := by simpa [OpenFunction.extend] using opened
        simp [first]
      · exact List.mem_cons_of_mem line later
  | case3 content line rest starts induction =>
      right
      rcases induction mem with opened | later
      · simp at opened
      · exact List.mem_cons_of_mem line later
  | case4 state content line rest extended complete induction =>
      rcases List.mem_cons.mp mem with rfl | mem
      · left
        simp [extended, OpenFunction.extend]
      · right
        rcases induction mem with opened | later
        · simp at opened
        · exact List.mem_cons_of_mem line later
  | case5 state content line rest extended complete induction =>
      rcases induction mem with opened | later
      · left
        simpa [extended, OpenFunction.extend] using opened
      · exact .inr (List.mem_cons_of_mem line later)

namespace Limits

variable {limits : Limits} {diff : Diff} {file : FileDiff} {finding : Finding}

theorem reports_of_mem_checkChurn (file_mem : file ∈ diff.files)
    (mem : finding ∈ limits.checkChurn file) : limits.Reports diff finding.stated := by
  rw [checkChurn] at mem
  split at mem
  · rename_i exceeds
    obtain rfl := List.mem_singleton.mp mem
    exact .churn file_mem rfl exceeds
  · contradiction

theorem reports_of_mem_checkFunctions (file_mem : file ∈ diff.files) {hunk : Hunk}
    (hunk_mem : hunk ∈ file.hunks) (mem : finding ∈ limits.checkFunctions file.filename hunk)
    (writable : finding.excess.IsWritable) : limits.Reports diff finding.stated := by
  obtain ⟨⟨start, length⟩, span_mem, rfl⟩ := List.mem_map.mp mem
  obtain ⟨span_mem, exceeds⟩ := List.mem_filter.mp span_mem
  have start_mem : start ∈ hunk.addedLines.map Prod.snd := by
    simpa using start_of_mem_functionSpans span_mem
  obtain ⟨⟨content, number⟩, line_mem, rfl⟩ := List.mem_map.mp start_mem
  have adds : diff.AddsLine file.filename number :=
    ⟨file, file_mem, rfl, content, List.mem_flatMap_of_mem hunk_mem line_mem⟩
  exact .longFunction adds rfl (of_decide_eq_true exceeds) writable

theorem reports_of_mem_checkNesting (file_mem : file ∈ diff.files)
    (mem : finding ∈ limits.checkNesting file) : limits.Reports diff finding.stated := by
  obtain ⟨⟨content, number⟩, line_mem, rfl⟩ := List.mem_map.mp mem
  obtain ⟨line_mem, deep⟩ := List.mem_filter.mp line_mem
  simp only [Bool.and_eq_true, decide_eq_true_eq] at deep
  exact .deepNesting ⟨file, file_mem, rfl, content, line_mem⟩ deep.2

theorem reports_of_mem_checkSize (adds : diff.hasAdditions = true)
    (mem : finding ∈ limits.checkSize diff) : limits.Reports diff finding.stated := by
  rw [checkSize] at mem
  split at mem
  · rename_i exceeds
    obtain ⟨first, is_first⟩ := Diff.exists_head?_of_hasAdditions adds
    obtain rfl := List.mem_singleton.mp mem
    rw [is_first]
    exact .largeChange is_first exceeds
  · contradiction

theorem reports_of_mem_findings (adds : diff.hasAdditions = true)
    (mem : finding ∈ limits.findings diff) (writable : finding.excess.IsWritable) :
    limits.Reports diff finding.stated := by
  rcases List.mem_append.mp mem with in_files | in_size
  · obtain ⟨file, file_mem, in_file⟩ := List.mem_flatMap.mp in_files
    simp only [checkFile, List.mem_append, List.mem_flatMap] at in_file
    rcases in_file with (in_churn | ⟨hunk, hunk_mem, in_hunk⟩) | in_nesting
    · exact reports_of_mem_checkChurn file_mem in_churn
    · exact reports_of_mem_checkFunctions file_mem hunk_mem in_hunk writable
    · exact reports_of_mem_checkNesting file_mem in_nesting
  · exact reports_of_mem_checkSize adds in_size

end Limits

/-! ## Replies -/

namespace ModelReviewer

theorem eq_nil_of_outcome_overdue {reviewer : ModelReviewer} {opening : List Effect}
    {arrival : Arrival} {stopTurns : Nat} {comments : List Comment}
    (proposed : (reviewer.overdue opening arrival stopTurns).outcome = .ok comments) :
    comments = [] := by
  rw [overdue] at proposed
  split at proposed
  · exact (Except.ok.inj proposed).symm
  · cases proposed

/-- Whatever a model does, its reviewer proposes what a reply states, or nothing. -/
theorem accepted_of_mem_review {reviewer : ModelReviewer} {diff : Diff} {comments : List Comment}
    (proposed : (reviewer.review diff).outcome = .ok comments) {comment : Comment}
    (mem : comment ∈ comments) : Reply.Accepted diff.filenames comment := by
  have not_silent : comments ≠ [] := List.ne_nil_of_mem mem
  rw [review] at proposed
  split at proposed
  · exact absurd (Except.ok.inj proposed).symm not_silent
  split at proposed
  · exact absurd (Except.ok.inj proposed).symm not_silent
  rw [consult] at proposed
  split_ifs at proposed
  · exact absurd (eq_nil_of_outcome_overdue proposed) not_silent
  · exact absurd (Except.ok.inj proposed).symm not_silent
  · exact absurd (eq_nil_of_outcome_overdue proposed) not_silent
  rw [ask] at proposed
  split at proposed
  · rename_i content _
    obtain rfl := Except.ok.inj proposed
    rw [readReply] at mem
    split at mem
    · rename_i read_eq
      exact Reply.accepted_of_mem_read read_eq mem
    · contradiction
  · exact absurd (Except.ok.inj proposed).symm not_silent
  · exact absurd (eq_nil_of_outcome_overdue proposed) not_silent

end ModelReviewer

/-! ## Reviews -/

/-- A reviewer of one of the three kinds, with all that it goes by. -/
inductive Reviewer
  | rules (rules : List Rule)
  | limits (limits : Limits)
  | model (reviewer : ModelReviewer)

/-- The layer of a reviewer. -/
def Reviewer.layer : Reviewer → Layer
  | rules given => .ofRules given
  | limits given => .ofLimits given
  | model given => .ofModel given

/-- What a diff has to show for a comment of each source. -/
structure Comment.Grounded (reviewers : List Reviewer) (diff : Diff) (comment : Comment) :
    Prop where
  filename_mem : comment.filename ∈ diff.filenames
  source_mem : comment.source ∈ ["pattern", "heuristic", "ai"]
  of_rule : comment.source = "pattern" →
    ∃ rules, .rules rules ∈ reviewers ∧ ∃ rule ∈ rules, ∃ number : Nat,
      rule.FiresAt diff comment.filename number ∧ comment.line = number ∧
        comment.body = s!"[{rule.id}] {rule.message}" ∧ comment.severity = rule.severity
  of_limit : comment.source = "heuristic" →
    ∃ limits, .limits limits ∈ reviewers ∧ limits.Reports diff comment
  of_reply : comment.source = "ai" →
    1 ≤ comment.line ∧
      (comment.filename ≠ "" ∧ IsTrimmed isWhiteSpace comment.filename.toList) ∧
        comment.body ≠ "" ∧ IsTrimmed isWhiteSpace comment.body.toList

namespace Comment

variable {reviewers : List Reviewer} {diff : Diff} {comment : Comment}

theorem grounded_of_mem_scan {rules : List Rule} (reviewer_mem : .rules rules ∈ reviewers)
    (mem : comment ∈ Rule.scan rules diff) : comment.Grounded reviewers diff := by
  obtain ⟨rule, rule_mem, filename, number, fires, rfl⟩ := Rule.mem_scan_iff.mp mem
  exact
    { filename_mem := fires.addsLine.mem_filenames
      source_mem := by simp [Rule.comment]
      of_rule := fun _ => ⟨rules, reviewer_mem, rule, rule_mem, number, fires, rfl, rfl, rfl⟩
      of_limit := by simp [Rule.comment]
      of_reply := by simp [Rule.comment] }

theorem grounded_of_mem_check {limits : Limits} (reviewer_mem : .limits limits ∈ reviewers)
    (adds : diff.hasAdditions = true) {comments : List Comment}
    (checked : limits.check diff = .ok comments) (mem : comment ∈ comments) :
    comment.Grounded reviewers diff := by
  obtain ⟨writable, rfl⟩ := Finding.mapM_comment_eq_ok_iff.mp checked
  obtain ⟨finding, finding_mem, rfl⟩ := List.mem_map.mp mem
  have reports := Limits.reports_of_mem_findings adds finding_mem (writable finding finding_mem)
  exact
    { filename_mem := reports.mem_filenames
      source_mem := by simp [reports.source_eq]
      of_rule := by simp [reports.source_eq]
      of_limit := fun _ => ⟨limits, reviewer_mem, reports⟩
      of_reply := by simp [reports.source_eq] }

theorem grounded_of_accepted (accepted : Reply.Accepted diff.filenames comment) :
    comment.Grounded reviewers diff where
  filename_mem := accepted.filename_mem
  source_mem := by simp [accepted.source_eq]
  of_rule := by simp [accepted.source_eq]
  of_limit := by simp [accepted.source_eq]
  of_reply := fun _ =>
    ⟨accepted.line_pos, ⟨accepted.filename_ne, accepted.filename_trimmed⟩, accepted.body_ne,
      accepted.body_trimmed⟩

theorem grounded_of_mem_layer {reviewer : Reviewer} (reviewer_mem : reviewer ∈ reviewers)
    (adds : diff.hasAdditions = true) {comments : List Comment}
    (proposed : (reviewer.layer.run diff).outcome = .ok comments) (mem : comment ∈ comments) :
    comment.Grounded reviewers diff := by
  cases reviewer with
  | rules rules =>
      obtain rfl : Rule.scan rules diff = comments := Except.ok.inj proposed
      exact grounded_of_mem_scan reviewer_mem mem
  | limits limits =>
      obtain rfl : (limits.check diff).toOption.getD [] = comments :=
        Except.ok.inj ((Layer.outcome_run_ofLimits limits diff).symm.trans proposed)
      cases checked : limits.check diff with
      | error error =>
          rw [checked] at mem
          exact absurd mem List.not_mem_nil
      | ok found =>
          rw [checked] at mem
          exact grounded_of_mem_check reviewer_mem adds checked mem
  | model model =>
      have reviewed : (model.review diff).outcome = .ok comments := proposed
      exact grounded_of_accepted (ModelReviewer.accepted_of_mem_review reviewed mem)

end Comment

/-- What is proposed was proposed by a layer. -/
theorem Pipeline.exists_of_mem_proposals {pipeline : Pipeline} {diff : Diff} {comment : Comment}
    (mem : comment ∈ pipeline.proposals diff) :
    ∃ layer ∈ pipeline.layers, ∃ comments,
      (layer.run diff).outcome = .ok comments ∧ comment ∈ comments := by
  obtain ⟨layer, layer_mem, mem⟩ := List.mem_flatMap.mp mem
  refine ⟨layer, layer_mem, ?_⟩
  cases result : (layer.run diff).result pipeline.limit with
  | returned comments =>
      rw [result] at mem
      exact ⟨comments, LayerRun.outcome_of_result_eq_returned result, mem⟩
  | raised reason => simp [result, LayerResult.comments] at mem
  | late limit => simp [result, LayerResult.comments] at mem

namespace Service

/-- A review of a readable diff by any reviewers of the three kinds succeeds, and each of its
comments is grounded in the diff.  It fails only if there are lines to look at, no layer has time,
and that cannot be written. -/
theorem analyze_grounds_comments {service : Service} {reviewers : List Reviewer}
    (built : service.layers = reviewers.map Reviewer.layer) {text : String} {reading : DiffReading}
    (readable : Diff.read text = .ok reading) :
    (reading.diff.hasAdditions = true ∧ service.pipeline.IsHalted →
      (service.analyze text).outcome = .error (.digits .writing)) ∧
    (¬(reading.diff.hasAdditions = true ∧ service.pipeline.IsHalted) →
      ∃ comments, (service.analyze text).outcome = .ok comments ∧
        ∀ comment ∈ comments, comment.Grounded reviewers reading.diff) := by
  rw [outcome_analyze service readable]
  constructor
  · rintro ⟨adds, halted⟩
    rw [if_pos adds, Pipeline.run_of_isHalted halted]
    rfl
  · intro goes_on
    by_cases adds : reading.diff.hasAdditions = true
    · rw [if_pos adds, Pipeline.run_of_not_isHalted fun halted => goes_on ⟨adds, halted⟩]
      refine ⟨_, rfl, fun comment mem => ?_⟩
      have proposed : comment ∈ service.pipeline.proposals reading.diff :=
        (Comment.merge_sublist _ _).mem mem
      obtain ⟨layer, layer_mem, comments, outcome, comment_mem⟩ :=
        Pipeline.exists_of_mem_proposals proposed
      rw [pipeline, built] at layer_mem
      obtain ⟨reviewer, reviewer_mem, rfl⟩ := List.mem_map.mp layer_mem
      exact Comment.grounded_of_mem_layer reviewer_mem adds outcome comment_mem
    · rw [if_neg adds]
      exact ⟨[], rfl, fun comment mem => absurd mem List.not_mem_nil⟩

/-- Each of three reviewers finds something in a diff of two lines. -/
theorem analyze_grounds_three_sources :
    let reply := "\x7b\"comments\": [\x7b" ++
      "\"filename\": \" x \", \"line\": 7, \"body\": \"odd\"\x7d]\x7d"
    let model : ModelReviewer := { model := fun _ => .reply reply, nesting := 900 }
    let reviewers : List Reviewer :=
      [.rules [.debuggerStatement], .limits { nestingDepth := 1 }, .model model]
    let service : Service := { layers := reviewers.map Reviewer.layer }
    let text := "diff --git a/x b/x\n@@ -0,0 +1,2 @@\n+debugger\n+    deep"
    ∃ reading comments, Diff.read text = .ok reading ∧
      (service.analyze text).outcome = .ok comments ∧
        comments.map Comment.source = ["pattern", "heuristic", "ai"] ∧
          ∀ comment ∈ comments, comment.Grounded reviewers reading.diff := by
  intro reply model reviewers service text
  let reading : DiffReading :=
    { diff := { files := [{ filename := "x", status := .modified, hunks := [
        { header := "@@ -0,0 +1,2 @@", oldStart := 0, oldCount := 0, newStart := 1, newCount := 2,
          lines := [.added "debugger" 1, .added "    deep" 2] }] }] }
      skipped := 0 }
  have readable : Diff.read text = .ok reading := by decide +kernel
  have built : service.layers = reviewers.map Reviewer.layer := rfl
  have runs : ¬service.pipeline.IsHalted := Pipeline.not_isHalted_of_fractional rfl
  obtain ⟨comments, outcome, grounded⟩ :=
    (analyze_grounds_comments built readable).2 fun halted => runs halted.2
  refine ⟨reading, comments, readable, outcome, ?_, grounded⟩
  rw [outcome_analyze_of_runs readable runs] at outcome
  obtain rfl := Except.ok.inj outcome
  rw [if_pos (by decide +kernel), Pipeline.comments, Comment.merge_eq_prevailing]
  decide +kernel

end Service

end DiffReview
