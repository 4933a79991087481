import DiffReview.ModelReviewer
import DiffReview.Proofs.Handling
import DiffReview.Proofs.Path.Exclusion
import DiffReview.Proofs.Summary.Truncation

/-!
# When a model is asked

A reviewer looks at the summary of a diff, and asks its model unless the summary is blank.  However
few rows a summary may have, it is blank only if no file is worth reviewing: it shows the header of
the first section or the notice that rows were left out.  Two more things keep the model from being
asked, numbers too long to be written and a lack of time.  Whatever the model then does, the review
ends with comments; it fails only where there is no time at all and that is too long to be written.
-/

namespace DiffReview

open Summary Text

/-! ## Blank summaries -/

namespace Summary

/-- The row has a character that is not blank. -/
def IsVisible (row : String) : Prop :=
  ∃ character ∈ row.toList, isBlank character = false

theorem isVisible_sectionHeader (file : FileDiff) : IsVisible (sectionHeader file) := by
  refine ⟨'-', ?_, by decide⟩
  rw [toList_sectionHeader file 0]
  exact List.mem_cons_self

theorem isVisible_notice (omitted : Nat) (maxLines : Int) : IsVisible (notice omitted maxLines) :=
  ⟨'[', List.mem_of_head? (head?_notice omitted maxLines), by decide⟩

theorem IsVisible.isBlankText_intercalate {rows : List String} {row : String}
    (visible : IsVisible row) (row_mem : row ∈ rows) :
    isBlankText ("\n".intercalate rows).toList = false := by
  obtain ⟨character, mem, not_blank⟩ := visible
  rw [isBlankText, List.all_eq_false, String.toList_intercalate]
  exact ⟨character, subset_intercalate (List.mem_map_of_mem row_mem) mem, by simp [not_blank]⟩

/-- However few rows are kept, the first one is, or else a notice. -/
theorem exists_isVisible_mem_cutRows {first : String} {others : List String}
    (visible : IsVisible first) (maxLines : Int) :
    ∃ row ∈ cutRows maxLines (first :: others), IsVisible row := by
  have kept : nonblank [first] = [first] := by
    refine nonblank_eq_self fun blank => ?_
    obtain ⟨character, nothing, -⟩ := List.mem_singleton.mp blank ▸ visible
    contradiction
  have first_mem : ∀ rows, first ∈ nonblank (first :: rows) := by
    intro rows
    rw [← List.singleton_append, nonblank_append, kept]
    exact List.mem_cons_self
  have shown : ∃ row ∈ nonblank (cutRows maxLines (first :: others)), IsVisible row := by
    rw [nonblank_cutRows]
    cases maxLines.toNat with
    | zero =>
        have some_omitted : countOmitted 0 (first :: others) ≠ 0 :=
          List.length_pos_iff.mpr (List.ne_nil_of_mem (first_mem others)) |>.ne'
        rw [if_neg some_omitted]
        exact ⟨_, List.mem_append_right _ List.mem_cons_self, isVisible_notice _ _⟩
    | succ count => exact ⟨first, List.mem_append_left _ (first_mem _), visible⟩
  obtain ⟨row, row_mem, row_visible⟩ := shown
  exact ⟨row, (List.mem_filter.mp row_mem).1, row_visible⟩

end Summary

/-- The summary of a diff that has been read is blank only if no file is worth reviewing. -/
theorem Diff.IsPlain.isBlankText_summary_iff {diff : Diff} {options : SummaryOptions}
    (plain : diff.IsPlain options.contextLines) {summary : String}
    (summarizes : diff.summary options = .ok summary) :
    isBlankText summary.toList = true ↔ diff.reviewableFiles = [] := by
  obtain ⟨-, rfl⟩ := (summary_eq_ok_iff plain).mp summarizes
  constructor
  · intro blank
    cases reviewed : diff.reviewableFiles with
    | nil => rfl
    | cons file files =>
        obtain ⟨others, rows_eq⟩ : ∃ others, diff.summaryRows options.contextLines =
            sectionHeader file :: others := by
          rw [summaryRows, reviewed, List.map_cons, FileDiff.sectionTexts]
          exact ⟨_, List.intercalate_cons_cons_left⟩
        rw [rows_eq] at blank
        obtain ⟨row, row_mem, visible⟩ := exists_isVisible_mem_cutRows
          (isVisible_sectionHeader file) options.maxLines
        rw [visible.isBlankText_intercalate row_mem] at blank
        contradiction
  · intro none_reviewed
    rw [(plain.intercalate_cutRows_eq_empty_iff options.maxLines).mpr none_reviewed]
    rfl

theorem Diff.reviewableFiles_ne_nil_iff {diff : Diff} :
    diff.reviewableFiles ≠ [] ↔ ∃ file ∈ diff.files,
      (file.status ≠ .deleted ∧ 0 < file.additions) ∧ Path.isExcluded file.filename = false := by
  have nonempty_iff : diff.reviewableFiles ≠ [] ↔ ∃ file, file ∈ diff.reviewableFiles :=
    ⟨List.exists_mem_of_ne_nil _, fun ⟨_, mem⟩ => List.ne_nil_of_mem mem⟩
  simp only [nonempty_iff, mem_reviewableFiles_iff, FileDiff.isReviewable_eq_true_iff,
    Bool.not_eq_true]

/-! ## Questions -/

/-- The questions that are asked in a run of a layer. -/
def LayerRun.questions (run : LayerRun) : List Question :=
  run.opening.filterMap Effect.question?

/-- The comments in an answer: those of a reply that can be read, and otherwise none. -/
def ModelAnswer.comments (nesting : Nat) (diff : Diff) : ModelAnswer → List Comment
  | .reply content =>
    match Reply.read nesting diff content with
    | .ok (comments, _) => comments
    | .error _ => []
  | .failure _ => []
  | .silence => []

namespace ModelReviewer

variable {reviewer : ModelReviewer} {diff : Diff}

/-- When the time is over, nothing is proposed. -/
theorem outcome_overdue (countable : reviewer.timeout.isTooLarge = false)
    (writable : ¬reviewer.timeout.IsUnwritable) (opening : List Effect) (arrival : Arrival)
    (stopTurns : Nat) : (reviewer.overdue opening arrival stopTurns).outcome = .ok [] := by
  have text_eq : reviewer.timeout.text = .ok reviewer.timeout.amount.usualText :=
    Quantity.text_eq_ok countable writable
  rw [overdue, text_eq]

theorem outcome_overdue_of_isUnwritable (unwritable : reviewer.timeout.IsUnwritable)
    (opening : List Effect) (arrival : Arrival) (stopTurns : Nat) :
    (reviewer.overdue opening arrival stopTurns).outcome = .error (.digits .writing) := by
  have text_eq : reviewer.timeout.text = .error .writing :=
    Quantity.text_of_isUnwritable unwritable
  rw [overdue, text_eq]

theorem questions_overdue_nil (arrival : Arrival) (stopTurns : Nat) :
    (reviewer.overdue [] arrival stopTurns).questions = [] := by
  rw [LayerRun.questions, opening_overdue]
  rfl

theorem not_isUnwritable_of_letsStart (starts : reviewer.timeout.letsStart = true) :
    ¬reviewer.timeout.IsUnwritable := by
  intro unwritable
  simp [Duration.letsStart, Duration.isNone_of_isUnwritable unwritable] at starts

theorem ask_consults (starts : reviewer.timeout.letsStart = true) (question : Question) :
    (reviewer.ask diff question).questions = [question] ∧
      (reviewer.ask diff question).outcome =
        .ok ((reviewer.model question).comments reviewer.nesting diff) := by
  have countable : reviewer.timeout.isTooLarge = false := by
    simpa using (Bool.and_eq_true_iff.mp starts).2
  rw [ask]
  cases reviewer.model question with
  | reply content =>
      refine ⟨rfl, ?_⟩
      cases read_eq : Reply.read reviewer.nesting diff content <;>
        simp [readReply, ModelAnswer.comments, read_eq]
  | failure reason => exact ⟨rfl, rfl⟩
  | silence =>
      refine ⟨?_, outcome_overdue countable (not_isUnwritable_of_letsStart starts) ..⟩
      rw [LayerRun.questions, opening_overdue]
      rfl

theorem consult_of_time (question : Question) (starts : reviewer.timeout.letsStart = true)
    (lasts : reviewer.timeout.isBrief = false) :
    reviewer.consult diff question = reviewer.ask diff question := by
  simp only [Duration.letsStart, Bool.and_eq_true, Bool.not_eq_true'] at starts
  simp [consult, starts, lasts]

/-- Without time for it the model is not asked. -/
theorem consult_without_time (question : Question)
    (no_time : ¬(reviewer.timeout.letsStart = true ∧ reviewer.timeout.isBrief = false))
    (writable : ¬reviewer.timeout.IsUnwritable) :
    (reviewer.consult diff question).questions = [] ∧
      (reviewer.consult diff question).outcome = .ok [] := by
  rw [consult]
  split_ifs with none tooLarge brief
  · have countable := Duration.isTooLarge_of_isNone none
    exact ⟨questions_overdue_nil .., outcome_overdue countable writable ..⟩
  · exact ⟨rfl, rfl⟩
  · exact ⟨questions_overdue_nil .., outcome_overdue (by simpa using tooLarge) writable ..⟩
  · exact absurd ⟨by simp [Duration.letsStart, none, tooLarge], by simpa using brief⟩ no_time

/-- Where there is no time at all and that cannot be written, the review fails. -/
theorem consult_of_isUnwritable (question : Question)
    (unwritable : reviewer.timeout.IsUnwritable) :
    (reviewer.consult diff question).questions = [] ∧
      (reviewer.consult diff question).outcome = .error (.digits .writing) := by
  rw [consult, if_pos (Duration.isNone_of_isUnwritable unwritable)]
  exact ⟨questions_overdue_nil .., outcome_overdue_of_isUnwritable unwritable ..⟩

/-- There is something to ask about a diff: a file is worth reviewing, and all numbers that the
summary shows can be written. -/
structure HasQuestion (reviewer : ModelReviewer) (diff : Diff) : Prop where
  reviewable : ∃ file ∈ diff.files,
    (file.status ≠ .deleted ∧ 0 < file.additions) ∧ Path.isExcluded file.filename = false
  writable : diff.IsWritable reviewer.options.contextLines ∧
    IsCutWritable reviewer.options.maxLines (diff.summaryRows reviewer.options.contextLines)

/-- The model is to be asked about a diff: there is something to ask, and time for it. -/
structure IsDue (reviewer : ModelReviewer) (diff : Diff) : Prop
    extends reviewer.HasQuestion diff where
  time : reviewer.timeout.letsStart = true ∧ reviewer.timeout.isBrief = false

/-- There is something to ask exactly if there is a summary that is not blank. -/
theorem hasQuestion_iff (plain : diff.IsPlain reviewer.options.contextLines) :
    reviewer.HasQuestion diff ↔ ∃ summary, diff.summary reviewer.options = .ok summary ∧
      ¬isBlankText summary.toList = true := by
  constructor
  · rintro ⟨reviewable, writable⟩
    obtain ⟨summary, summarizes⟩ : ∃ summary, diff.summary reviewer.options = .ok summary :=
      ⟨_, (Diff.summary_eq_ok_iff plain).mpr ⟨writable, rfl⟩⟩
    refine ⟨summary, summarizes, ?_⟩
    rw [plain.isBlankText_summary_iff summarizes]
    exact Diff.reviewableFiles_ne_nil_iff.mpr reviewable
  · rintro ⟨summary, summarizes, not_blank⟩
    rw [plain.isBlankText_summary_iff summarizes] at not_blank
    exact ⟨Diff.reviewableFiles_ne_nil_iff.mp not_blank,
      ((Diff.summary_eq_ok_iff plain).mp summarizes).1⟩

/-- A reviewer that has something to ask consults its model about the summary. -/
theorem review_of_hasQuestion (plain : diff.IsPlain reviewer.options.contextLines)
    (has : reviewer.HasQuestion diff) : ∃ summary, diff.summary reviewer.options = .ok summary ∧
      reviewer.review diff = reviewer.consult diff (reviewer.question summary) := by
  obtain ⟨summary, summarizes, not_blank⟩ := (hasQuestion_iff plain).mp has
  exact ⟨summary, summarizes, by simp only [review, summarizes, if_neg not_blank]⟩

/-- A reviewer that has nothing to ask is content. -/
theorem review_of_not_hasQuestion (plain : diff.IsPlain reviewer.options.contextLines)
    (has_none : ¬reviewer.HasQuestion diff) :
    (reviewer.review diff).questions = [] ∧ (reviewer.review diff).outcome = .ok [] := by
  rw [review]
  cases summarizes : diff.summary reviewer.options with
  | error error => exact ⟨rfl, rfl⟩
  | ok summary =>
      have blank : isBlankText summary.toList = true := by
        by_contra not_blank
        exact has_none ((hasQuestion_iff plain).mpr ⟨summary, summarizes, not_blank⟩)
      simp only [if_pos blank]
      exact ⟨rfl, trivial⟩

/-- A file that has gained one line. -/
def fileOfLine (content : String) : FileDiff where
  filename := "x"
  status := .modified
  hunks :=
    [{ header := "@@ -0,0 +1 @@", oldStart := 0, oldCount := 0, newStart := 1, newCount := 1,
       lines := [.added content 1] }]

end ModelReviewer

end DiffReview
