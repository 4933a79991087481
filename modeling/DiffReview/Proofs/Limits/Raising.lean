import DiffReview.Proofs.Findings

/-!
# Raising the limits

What is measured in a diff does not depend on the limits; they only decide which measurements are
findings (`findings_eq_beyond`).  So raising limits takes findings away and adds none, and the
findings of one kind depend on the limit of that kind alone.  The kind and the measured number are
read off the comment itself: its opening words, and the digits behind them.  Where the limit on
functions has too many digits, one function beyond it leaves no comments at all.
-/

namespace DiffReview

/-! ## Measurements -/

/-- The limit on what is measured. -/
def Limits.bound (limits : Limits) : Excess.Kind → Int
  | .churn => limits.fileChurn
  | .longFunction => limits.functionLines
  | .deepNesting => limits.nestingDepth
  | .largeChange => limits.totalAdditions

/-- Something measured in a diff, whatever the limits. -/
structure Measurement where
  /-- The path of the file. -/
  filename : String
  /-- The line number in the new revision. -/
  line : Nat
  /-- What was measured. -/
  kind : Excess.Kind
  /-- The number that was measured. -/
  size : Nat
deriving DecidableEq, Repr

namespace Measurement

/-- The excess that a measurement is beyond the limits, in a diff of that many files. -/
def excess (limits : Limits) (files : Nat) (measurement : Measurement) : Excess :=
  match measurement.kind with
  | .churn => .churn measurement.size
  | .longFunction => .longFunction measurement.size limits.functionLines
  | .deepNesting => .deepNesting measurement.size
  | .largeChange => .largeChange measurement.size files

/-- The finding that a measurement is beyond the limits, in a diff of that many files. -/
def finding (limits : Limits) (files : Nat) (measurement : Measurement) : Finding where
  filename := measurement.filename
  line := measurement.line
  excess := measurement.excess limits files

theorem finding_congr {limits other : Limits} (measurement : Measurement)
    (same : limits.bound measurement.kind = other.bound measurement.kind) (files : Nat) :
    measurement.finding limits files = measurement.finding other files := by
  obtain ⟨filename, line, kind, size⟩ := measurement
  cases kind with
  | longFunction =>
      exact congrArg (fun limit => Finding.mk filename line (.longFunction size limit)) same
  | churn | deepNesting | largeChange => rfl

@[simp]
theorem kind_excess (limits : Limits) (files : Nat) (measurement : Measurement) :
    (measurement.excess limits files).kind = measurement.kind := by
  obtain ⟨filename, line, kind, size⟩ := measurement
  cases kind <;> rfl

end Measurement

/-- The lengths of the functions that start and end in a hunk. -/
def Hunk.functionMeasurements (filename : String) (hunk : Hunk) : List Measurement :=
  (functionSpans none hunk.addedLines).map fun (start, length) =>
    ⟨filename, start, .longFunction, length⟩

namespace FileDiff

/-- The churn of a file. -/
def churnMeasurement (file : FileDiff) : Measurement :=
  ⟨file.filename, 1, .churn, file.churn⟩

/-- The depths of the added lines of a file that are not blank. -/
def nestingMeasurements (file : FileDiff) : List Measurement :=
  (file.addedLines.filter fun (content, _) => !Text.isBlankText content.toList).map
    fun (content, line) => ⟨file.filename, line, .deepNesting, indentation content⟩

/-- What is measured in a file. -/
def measurements (file : FileDiff) : List Measurement :=
  [file.churnMeasurement] ++ file.hunks.flatMap (Hunk.functionMeasurements file.filename) ++
    file.nestingMeasurements

end FileDiff

namespace Diff

/-- The size of the whole change, measured at the first file. -/
def sizeMeasurement (diff : Diff) : Measurement :=
  ⟨(diff.files.head?.map FileDiff.filename).getD "unknown", 1, .largeChange, diff.additions⟩

/-- What is measured in a diff. -/
def measurements (diff : Diff) : List Measurement :=
  diff.files.flatMap FileDiff.measurements ++ [diff.sizeMeasurement]

end Diff

/-! ## Measurements beyond the limits -/

namespace Limits

/-- Whether a measurement is beyond its limit. -/
def isExceededBy (limits : Limits) (measurement : Measurement) : Bool :=
  limits.bound measurement.kind < measurement.size

/-- The findings that measurements are in a diff of that many files. -/
def beyond (limits : Limits) (files : Nat) (measurements : List Measurement) : List Finding :=
  (measurements.filter limits.isExceededBy).map (Measurement.finding limits files)

section Beyond

variable (limits : Limits) (files : Nat)

theorem beyond_append (first second : List Measurement) :
    limits.beyond files (first ++ second) =
      limits.beyond files first ++ limits.beyond files second := by
  rw [beyond, List.filter_append, List.map_append]
  rfl

theorem beyond_flatMap {α : Type} (measure : α → List Measurement) (measured : List α) :
    limits.beyond files (measured.flatMap measure) =
      measured.flatMap fun item => limits.beyond files (measure item) := by
  rw [beyond, List.filter_flatMap, List.map_flatMap]
  rfl

theorem beyond_singleton (measurement : Measurement) :
    limits.beyond files [measurement] =
      if limits.bound measurement.kind < measurement.size then [measurement.finding limits files]
      else [] := by
  rw [beyond, List.filter_singleton]
  simp only [isExceededBy, Bool.cond_decide]
  split <;> rfl

theorem checkFunctions_eq_beyond (filename : String) (hunk : Hunk) :
    limits.checkFunctions filename hunk =
      limits.beyond files (hunk.functionMeasurements filename) := by
  rw [checkFunctions, beyond, Hunk.functionMeasurements, List.filter_map, List.map_map]
  rfl

theorem checkNesting_eq_beyond (file : FileDiff) :
    limits.checkNesting file = limits.beyond files file.nestingMeasurements := by
  rw [checkNesting, beyond, FileDiff.nestingMeasurements, List.filter_map, List.filter_filter,
    List.map_map]
  congr 2
  funext line
  exact Bool.and_comm _ _

theorem checkFile_eq_beyond (file : FileDiff) :
    limits.checkFile file = limits.beyond files file.measurements := by
  have churn_eq : limits.checkChurn file = limits.beyond files [file.churnMeasurement] :=
    (beyond_singleton limits files file.churnMeasurement).symm
  have functions_eq : file.hunks.flatMap (limits.checkFunctions file.filename) =
      limits.beyond files (file.hunks.flatMap (Hunk.functionMeasurements file.filename)) := by
    rw [beyond_flatMap]
    exact List.flatMap_congr fun hunk _ => checkFunctions_eq_beyond limits files file.filename hunk
  rw [checkFile, churn_eq, functions_eq, checkNesting_eq_beyond limits files, FileDiff.measurements,
    beyond_append, beyond_append]

end Beyond

/-- The findings are the measurements beyond the limits. -/
theorem findings_eq_beyond (limits : Limits) (diff : Diff) :
    limits.findings diff = limits.beyond diff.files.length diff.measurements := by
  have size_eq : limits.checkSize diff = limits.beyond diff.files.length [diff.sizeMeasurement] :=
    (beyond_singleton limits diff.files.length diff.sizeMeasurement).symm
  rw [findings, Diff.measurements, beyond_append, beyond_flatMap, size_eq]
  congr 1
  exact List.flatMap_congr fun file _ => checkFile_eq_beyond limits diff.files.length file

end Limits

/-! ## What a comment tells -/

/-- All that a finding can be about. -/
def Excess.Kind.all : List Excess.Kind :=
  [churn, longFunction, deepNesting, largeChange]

/-- What the comment says was measured: its opening words tell what, and the number follows them. -/
def Comment.measured? (comment : Comment) : Option (Excess.Kind × Nat) :=
  (Excess.Kind.all.find? fun kind => comment.isAbout kind).map fun kind =>
    (kind, Text.digitsValue
      ((comment.body.toList.drop kind.opening.toList.length).takeWhile Char.isDigit))

/-- What a comment tells: where, how serious, and what was measured. -/
structure Remark where
  /-- The path of the file. -/
  filename : String
  /-- The line number. -/
  line : Int
  /-- How serious the finding is. -/
  severity : Severity
  /-- What was measured, and the number. -/
  measured : Option (Excess.Kind × Nat)
deriving DecidableEq, Repr

/-- What a comment tells. -/
def Comment.remark (comment : Comment) : Remark where
  filename := comment.filename
  line := comment.line
  severity := comment.severity
  measured := comment.measured?

/-- The number in the wording is the one that was measured. -/
theorem Measurement.exists_wording_eq (limit : String) (limits : Limits) (files : Nat)
    (measurement : Measurement) :
    ∃ rest : String, (∀ character ∈ rest.toList.head?, character.isDigit = false) ∧
      (measurement.excess limits files).wording limit =
        measurement.kind.opening ++ (toString measurement.size ++ rest) := by
  obtain ⟨filename, line, kind, size⟩ := measurement
  cases kind with
  | churn =>
      exact ⟨" changed lines); consider splitting this into smaller changes.", by simp,
        String.append_assoc⟩
  | longFunction =>
      refine ⟨" lines long (limit: " ++ (limit ++ "); consider extracting smaller functions."),
        by simp [String.toList_append], ?_⟩
      exact String.append_assoc.trans (String.append_assoc.trans String.append_assoc)
  | deepNesting =>
      exact ⟨"); consider early returns or extracting helpers.", by simp, String.append_assoc⟩
  | largeChange =>
      refine ⟨" additions across " ++ (toString files ++ (" file(s); " ++
        "consider breaking it into smaller pull requests.")), by simp [String.toList_append], ?_⟩
      exact String.append_assoc.trans (String.append_assoc.trans
        (String.append_assoc.trans (String.append_assoc)))

/-- What was measured can be read off the comment. -/
theorem Measurement.measured?_stated (limits : Limits) (files : Nat) (measurement : Measurement) :
    (measurement.finding limits files).stated.measured? =
      some (measurement.kind, measurement.size) := by
  have about : ∀ kind, (measurement.finding limits files).stated.isAbout kind =
      decide (measurement.kind = kind) := by
    intro kind
    rw [Finding.isAbout_stated, finding, kind_excess]
  have found : Excess.Kind.all.find? (fun kind => decide (measurement.kind = kind)) =
      some measurement.kind := by
    cases measurement.kind <;> rfl
  obtain ⟨rest, no_digit, wording_eq⟩ :=
    exists_wording_eq (measurement.excess limits files).usualLimit limits files measurement
  have digits_eq : ∀ character ∈ Nat.toDigits 10 measurement.size, character.isDigit = true :=
    fun _ mem => Nat.isDigit_of_mem_toDigits (by decide) (by decide) mem
  have stops : rest.toList.takeWhile Char.isDigit = [] := by
    cases characters : rest.toList with
    | nil => rfl
    | cons first others =>
        have first_other := no_digit first (by rw [characters]; rfl)
        simp [first_other]
  have body_eq : (measurement.finding limits files).stated.body.toList =
      measurement.kind.opening.toList ++
        (Nat.toDigits 10 measurement.size ++ rest.toList) := by
    change ((measurement.excess limits files).wording
      (measurement.excess limits files).usualLimit).toList = _
    rw [wording_eq, String.toList_append, String.toList_append, Nat.toString_eq_repr,
      Nat.toList_repr]
  simp only [Comment.measured?, about, found, Option.map_some, body_eq, List.drop_left,
    List.takeWhile_append_of_pos digits_eq, stops, List.append_nil, Text.digitsValue_toDigits]

namespace Measurement

/-- What the comment about a measurement tells. -/
def remark (measurement : Measurement) : Remark where
  filename := measurement.filename
  line := measurement.line
  severity := if measurement.kind = .deepNesting then .info else .warning
  measured := some (measurement.kind, measurement.size)

theorem remark_stated (limits : Limits) (files : Nat) (measurement : Measurement) :
    (measurement.finding limits files).stated.remark = measurement.remark := by
  have severity_eq : (measurement.excess limits files).severity =
      if measurement.kind = .deepNesting then .info else .warning := by
    obtain ⟨filename, line, kind, size⟩ := measurement
    cases kind <;> rfl
  rw [Comment.remark, measured?_stated, remark, ← severity_eq]
  rfl

end Measurement

/-! ## Raising limits -/

namespace Limits

variable {limits raised : Limits} {diff : Diff}

/-- What is found are the measurements beyond the limits. -/
theorem map_stated_findings (limits : Limits) (diff : Diff) :
    (limits.findings diff).map Finding.stated =
      (diff.measurements.filter limits.isExceededBy).map fun measurement =>
        (measurement.finding limits diff.files.length).stated := by
  rw [findings_eq_beyond, beyond, List.map_map]
  rfl

theorem map_remark_findings (limits : Limits) (diff : Diff) :
    ((limits.findings diff).map Finding.stated).map Comment.remark =
      (diff.measurements.filter limits.isExceededBy).map Measurement.remark := by
  rw [map_stated_findings, List.map_map]
  congr 1
  funext measurement
  exact measurement.remark_stated limits diff.files.length

theorem isExceededBy_of_le (raises : ∀ kind, limits.bound kind ≤ raised.bound kind)
    {measurement : Measurement} (beyond_raised : raised.isExceededBy measurement = true) :
    limits.isExceededBy measurement = true := by
  have above := of_decide_eq_true beyond_raised
  exact decide_eq_true (Int.lt_of_le_of_lt (raises measurement.kind) above)

/-- Whether or not it can be worded, nothing new is found under raised limits. -/
theorem findings_sublist_of_raised (raises : ∀ kind, limits.bound kind ≤ raised.bound kind)
    (diff : Diff) :
    (((raised.findings diff).map Finding.stated).map Comment.remark).Sublist
      (((limits.findings diff).map Finding.stated).map Comment.remark) := by
  rw [map_remark_findings, map_remark_findings]
  exact (List.monotone_filter_right _ fun _ => isExceededBy_of_le raises).map _

/-- What is found of one kind are the measurements of the kind beyond its limit. -/
theorem filter_isAbout_findings (limits : Limits) (diff : Diff) (kind : Excess.Kind) :
    ((limits.findings diff).map Finding.stated).filter (fun comment => comment.isAbout kind) =
      ((diff.measurements.filter fun measurement => measurement.kind = kind).filter
        limits.isExceededBy).map fun measurement =>
          (measurement.finding limits diff.files.length).stated := by
  rw [map_stated_findings, List.filter_map, List.filter_filter, List.filter_filter]
  congr 2
  funext measurement
  rw [Function.comp_apply, Finding.isAbout_stated, Measurement.finding, Measurement.kind_excess,
    Bool.and_comm]

/-- What is found of one kind depends on the limit of the kind alone. -/
theorem filter_isAbout_congr {kind : Excess.Kind} (same : limits.bound kind = raised.bound kind)
    (diff : Diff) :
    ((raised.findings diff).map Finding.stated).filter (fun comment => comment.isAbout kind) =
      ((limits.findings diff).map Finding.stated).filter fun comment => comment.isAbout kind := by
  rw [filter_isAbout_findings, filter_isAbout_findings]
  generalize of_kind_eq : diff.measurements.filter (fun measurement => measurement.kind = kind) =
    of_kind
  have same_bound : ∀ measurement ∈ of_kind,
      raised.bound measurement.kind = limits.bound measurement.kind := by
    intro measurement mem
    rw [← of_kind_eq] at mem
    rw [of_decide_eq_true (List.mem_filter.mp mem).2, same]
  have same_beyond : of_kind.filter raised.isExceededBy = of_kind.filter limits.isExceededBy := by
    refine List.filter_congr fun measurement mem => ?_
    rw [isExceededBy, same_bound measurement mem, isExceededBy]
  rw [same_beyond]
  refine List.map_congr_left fun measurement mem => congrArg Finding.stated ?_
  exact measurement.finding_congr (same_bound measurement (List.mem_filter.mp mem).1) _

/-! ## Comments on what is found -/

/-- A function that starts and ends in a hunk is longer than the limit. -/
def HasLongFunction (limits : Limits) (diff : Diff) : Prop :=
  ∃ file ∈ diff.files, ∃ hunk ∈ file.hunks, ∃ span ∈ functionSpans none hunk.addedLines,
    limits.functionLines < span.2

/-- There is a comment to be made that states a limit with too many digits. -/
def HasOverlongComment (limits : Limits) (diff : Diff) : Prop :=
  Nat.pow 10 Text.maxDigits ≤ limits.functionLines.natAbs ∧ limits.HasLongFunction diff

theorem hasOverlongComment_iff :
    limits.HasOverlongComment diff ↔
      ∃ finding ∈ limits.findings diff, ¬finding.excess.IsWritable := by
  constructor
  · rintro ⟨overlong, file, file_mem, hunk, hunk_mem, span, span_mem, above⟩
    have in_hunk : (⟨file.filename, span.1, .longFunction span.2 limits.functionLines⟩ : Finding) ∈
        limits.checkFunctions file.filename hunk :=
      List.mem_map_of_mem (List.mem_filter.mpr ⟨span_mem, decide_eq_true above⟩)
    exact ⟨_, (mem_findings_longFunction_iff.mpr ⟨file, file_mem, hunk, hunk_mem, in_hunk⟩).1,
      Nat.not_lt.mpr overlong⟩
  · rintro ⟨finding, mem, not_writable⟩
    have about_function : finding.excess.kind = .longFunction := by
      by_contra other
      exact not_writable (Excess.isWritable_of_kind_ne other)
    obtain ⟨file, file_mem, hunk, hunk_mem, in_hunk⟩ :=
      mem_findings_longFunction_iff.mp ⟨mem, about_function⟩
    obtain ⟨span, long_mem, rfl⟩ := List.mem_map.mp in_hunk
    obtain ⟨span_mem, above⟩ := List.mem_filter.mp long_mem
    exact ⟨Nat.not_lt.mp not_writable, file, file_mem, hunk, hunk_mem, span, span_mem,
      of_decide_eq_true above⟩

theorem check_of_hasOverlongComment (overlong : limits.HasOverlongComment diff) :
    limits.check diff = .error .writing :=
  Finding.mapM_comment_eq_error_iff.mpr ⟨hasOverlongComment_iff.mp overlong, rfl⟩

theorem check_of_not_hasOverlongComment (wordable : ¬limits.HasOverlongComment diff) :
    limits.check diff = .ok ((limits.findings diff).map Finding.stated) := by
  refine Finding.mapM_comment_eq_ok_iff.mpr ⟨fun finding mem => ?_, rfl⟩
  by_contra not_writable
  exact wordable (hasOverlongComment_iff.mpr ⟨finding, mem, not_writable⟩)

end Limits

end DiffReview
