import DiffReview.Limits
import DiffReview.Proofs.Text.Decimal
import DiffReview.Rule

/-!
# What findings depend on

Rules, and the checks of functions, nesting and size, look at the added lines of a diff alone; only
the churn of a file also counts its removed lines.  All checks but that of the size look at each
file by itself.  What a comment is about can be told from the way it opens.  Only the comment on a
long function can fail to be worded, and that is a matter of its limit.
-/

namespace DiffReview

/-! ## What a finding is about -/

/-- What a finding is about. -/
inductive Excess.Kind
  | churn
  | longFunction
  | deepNesting
  | largeChange
deriving DecidableEq, Repr

namespace Excess

/-- What was measured, without the measurement. -/
def kind : Excess → Kind
  | churn _ => .churn
  | longFunction _ _ => .longFunction
  | deepNesting _ => .deepNesting
  | largeChange _ _ => .largeChange

/-- The words with which a message of the kind opens. -/
def Kind.opening : Kind → String
  | churn => "High file churn ("
  | longFunction => "Function is "
  | deepNesting => "Deeply nested code (depth "
  | largeChange => "Large change: "

theorem exists_wording_eq (limit : String) (excess : Excess) :
    ∃ rest, excess.wording limit = excess.kind.opening ++ rest := by
  cases excess with
  | churn changed => exact ⟨_, String.append_assoc⟩
  | longFunction lines _ =>
      exact ⟨_, String.append_assoc.trans (String.append_assoc.trans String.append_assoc)⟩
  | deepNesting depth => exact ⟨_, String.append_assoc⟩
  | largeChange additions files =>
      exact ⟨_, String.append_assoc.trans
        (String.append_assoc.trans (String.append_assoc.trans String.append_assoc))⟩

/-- A wording opens with the words for what it is about, and with no others. -/
theorem opening_isPrefix_wording_iff {limit : String} {excess : Excess} {kind : Kind} :
    kind.opening.toList <+: (excess.wording limit).toList ↔ excess.kind = kind := by
  obtain ⟨rest, wording_eq⟩ := exists_wording_eq limit excess
  rw [wording_eq, String.toList_append]
  have opens : excess.kind.opening.toList <+: excess.kind.opening.toList ++ rest.toList :=
    List.prefix_append _ _
  constructor
  · intro other_opens
    have comparable := List.prefix_or_prefix_of_prefix opens other_opens
    revert comparable
    cases excess.kind <;> cases kind <;> decide
  · rintro rfl
    exact opens

/-! ## Limits in comments -/

/-- The limit that the wording states, if it states one, is not too long to be written. -/
def IsWritable : Excess → Prop
  | longFunction _ limit => limit.natAbs < Nat.pow 10 Text.maxDigits
  | _ => True

/-- The limit in its usual text, however long that is. -/
def usualLimit : Excess → String
  | longFunction _ limit => toString limit
  | _ => ""

theorem isWritable_of_kind_ne {excess : Excess} (other : excess.kind ≠ .longFunction) :
    excess.IsWritable := by
  cases excess with
  | longFunction lines limit => exact absurd rfl other
  | churn | deepNesting | largeChange => exact trivial

theorem limitText_eq_ok_iff (excess : Excess) (limit : String) :
    excess.limitText = .ok limit ↔ excess.IsWritable ∧ limit = excess.usualLimit := by
  cases excess with
  | longFunction lines most => exact Text.integerText_eq_ok_iff
  | churn | deepNesting | largeChange => simp [limitText, IsWritable, usualLimit, eq_comm]

theorem eq_writing_of_limitText {excess : Excess} {error : Text.DigitLimitError}
    (failed : excess.limitText = .error error) : error = .writing := by
  cases excess with
  | longFunction lines most => exact (Text.integerText_eq_error_iff.mp failed).2
  | churn | deepNesting | largeChange => cases failed

end Excess

/-- Whether a comment opens as those of the given kind do. -/
def Comment.isAbout (kind : Excess.Kind) (comment : Comment) : Bool :=
  kind.opening.toList.isPrefixOf comment.body.toList

namespace Finding

/-- The finding as a comment that states the limit in its usual text. -/
def stated (finding : Finding) : Comment :=
  finding.commentOf (finding.excess.wording finding.excess.usualLimit)

/-- A finding can be worded if its limit can be written. -/
theorem comment_eq_ok_iff (finding : Finding) (comment : Comment) :
    finding.comment = .ok comment ↔ finding.excess.IsWritable ∧ comment = finding.stated := by
  have worded : ∀ body, finding.excess.message = .ok body ↔
      finding.excess.IsWritable ∧ body = finding.excess.wording finding.excess.usualLimit :=
    map_eq_ok_iff finding.excess.limitText_eq_ok_iff fun limit => finding.excess.wording limit
  exact map_eq_ok_iff worded finding.commentOf comment

theorem eq_writing_of_comment {finding : Finding} {error : Text.DigitLimitError}
    (failed : finding.comment = .error error) : error = .writing := by
  cases limit_eq : finding.excess.limitText with
  | error other =>
      rw [comment, Excess.message, limit_eq] at failed
      obtain rfl := Except.error.inj failed
      exact Excess.eq_writing_of_limitText limit_eq
  | ok limit =>
      rw [comment, Excess.message, limit_eq] at failed
      cases failed

theorem isAbout_stated (finding : Finding) (kind : Excess.Kind) :
    finding.stated.isAbout kind = decide (finding.excess.kind = kind) := by
  rw [Bool.eq_iff_iff, decide_eq_true_eq, ← Excess.opening_isPrefix_wording_iff]
  exact List.isPrefixOf_iff_prefix

/-- Findings are worded all together or not at all. -/
theorem mapM_comment_eq_ok_iff {findings : List Finding} {comments : List Comment} :
    findings.mapM comment = .ok comments ↔
      (∀ finding ∈ findings, finding.excess.IsWritable) ∧ comments = findings.map stated :=
  mapM_eq_ok_iff comment_eq_ok_iff

theorem mapM_comment_eq_error_iff {findings : List Finding} {error : Text.DigitLimitError} :
    findings.mapM comment = .error error ↔
      (∃ finding ∈ findings, ¬finding.excess.IsWritable) ∧ error = .writing := by
  constructor
  · intro failed
    obtain ⟨finding, mem, finding_failed⟩ := exists_error_of_mapM failed
    refine ⟨⟨finding, mem, fun writable => ?_⟩, eq_writing_of_comment finding_failed⟩
    rw [(comment_eq_ok_iff finding _).mpr ⟨writable, rfl⟩] at finding_failed
    cases finding_failed
  · rintro ⟨⟨finding, mem, not_writable⟩, rfl⟩
    cases worded : findings.mapM comment with
    | ok comments => exact absurd ((mapM_comment_eq_ok_iff.mp worded).1 finding mem) not_writable
    | error error =>
        obtain ⟨other, -, other_failed⟩ := exists_error_of_mapM worded
        rw [eq_writing_of_comment other_failed]

end Finding

namespace Limits

variable {limits : Limits} {finding : Finding}

theorem kind_of_mem_checkChurn {file : FileDiff} (mem : finding ∈ limits.checkChurn file) :
    finding.excess.kind = .churn := by
  rw [checkChurn] at mem
  split at mem
  · rw [List.mem_singleton.mp mem]
    rfl
  · contradiction

theorem kind_of_mem_checkFunctions {filename : String} {hunk : Hunk}
    (mem : finding ∈ limits.checkFunctions filename hunk) :
    finding.excess.kind = .longFunction := by
  obtain ⟨span, -, rfl⟩ := List.mem_map.mp mem
  rfl

theorem kind_of_mem_checkNesting {file : FileDiff} (mem : finding ∈ limits.checkNesting file) :
    finding.excess.kind = .deepNesting := by
  obtain ⟨line, -, rfl⟩ := List.mem_map.mp mem
  rfl

theorem kind_of_mem_checkSize {diff : Diff} (mem : finding ∈ limits.checkSize diff) :
    finding.excess.kind = .largeChange := by
  rw [checkSize] at mem
  split at mem
  · rw [List.mem_singleton.mp mem]
    rfl
  · contradiction

/-- The findings about the added lines of one file. -/
def checkAdded (limits : Limits) (file : FileDiff) : List Finding :=
  file.hunks.flatMap (limits.checkFunctions file.filename) ++ limits.checkNesting file

theorem checkFile_eq (limits : Limits) (file : FileDiff) :
    limits.checkFile file = limits.checkChurn file ++ limits.checkAdded file :=
  List.append_assoc _ _ _

theorem kind_of_mem_checkAdded {file : FileDiff} (mem : finding ∈ limits.checkAdded file) :
    finding.excess.kind = .longFunction ∨ finding.excess.kind = .deepNesting := by
  rcases List.mem_append.mp mem with in_functions | in_nesting
  · obtain ⟨hunk, -, in_hunk⟩ := List.mem_flatMap.mp in_functions
    exact .inl (kind_of_mem_checkFunctions in_hunk)
  · exact .inr (kind_of_mem_checkNesting in_nesting)

/-- The findings about functions are those about the functions in the hunks. -/
theorem mem_findings_longFunction_iff {diff : Diff} :
    finding ∈ limits.findings diff ∧ finding.excess.kind = .longFunction ↔
      ∃ file ∈ diff.files, ∃ hunk ∈ file.hunks,
        finding ∈ limits.checkFunctions file.filename hunk := by
  constructor
  · rintro ⟨mem, about⟩
    rcases List.mem_append.mp mem with in_files | in_size
    · obtain ⟨file, file_mem, in_file⟩ := List.mem_flatMap.mp in_files
      rw [checkFile, List.mem_append, List.mem_append] at in_file
      rcases in_file with (in_churn | in_functions) | in_nesting
      · simp [kind_of_mem_checkChurn in_churn] at about
      · obtain ⟨hunk, hunk_mem, in_hunk⟩ := List.mem_flatMap.mp in_functions
        exact ⟨file, file_mem, hunk, hunk_mem, in_hunk⟩
      · simp [kind_of_mem_checkNesting in_nesting] at about
    · simp [kind_of_mem_checkSize in_size] at about
  · rintro ⟨file, file_mem, hunk, hunk_mem, in_hunk⟩
    have in_file : finding ∈ limits.checkFile file :=
      List.mem_append_left _ (List.mem_append_right _ (List.mem_flatMap_of_mem hunk_mem in_hunk))
    exact ⟨List.mem_append_left _ (List.mem_flatMap_of_mem file_mem in_file),
      kind_of_mem_checkFunctions in_hunk⟩

/-- The comments on a diff but those about one thing, if all comments can be worded. -/
def checkApartFrom (kind : Excess.Kind) (limits : Limits) (diff : Diff) :
    Except Text.DigitLimitError (List Comment) :=
  (limits.check diff).map fun comments => comments.filter fun comment => !comment.isAbout kind

/-- Where those about one thing can always be worded, the other comments are made of the other
findings alone. -/
theorem checkApartFrom_eq_mapM {kind : Excess.Kind} (wordable : kind ≠ .longFunction)
    (limits : Limits) (diff : Diff) :
    limits.checkApartFrom kind diff =
      ((limits.findings diff).filter fun finding => finding.excess.kind ≠ kind).mapM
        Finding.comment := by
  apply map_filter_mapM
  · intro finding comment worded
    obtain ⟨-, rfl⟩ := (finding.comment_eq_ok_iff comment).mp worded
    simp [Finding.isAbout_stated]
  · intro finding about
    have kind_eq : finding.excess.kind = kind := by simpa using about
    have writable := Excess.isWritable_of_kind_ne (kind_eq ▸ wordable)
    exact ⟨_, (finding.comment_eq_ok_iff _).mpr ⟨writable, rfl⟩⟩

/-- All findings but the one about the size are about single files. -/
theorem filter_findings_ne_largeChange (limits : Limits) (diff : Diff) :
    (limits.findings diff).filter (fun finding => finding.excess.kind ≠ .largeChange) =
      diff.files.flatMap limits.checkFile := by
  have about_files : ∀ finding ∈ diff.files.flatMap limits.checkFile,
      decide (finding.excess.kind ≠ .largeChange) = true := by
    intro finding mem
    obtain ⟨file, -, in_file⟩ := List.mem_flatMap.mp mem
    rw [checkFile_eq, List.mem_append] at in_file
    rcases in_file with in_churn | in_added
    · simp [kind_of_mem_checkChurn in_churn]
    · rcases kind_of_mem_checkAdded in_added with kind_eq | kind_eq <;> simp [kind_eq]
  have about_size : ∀ finding ∈ limits.checkSize diff,
      ¬decide (finding.excess.kind ≠ .largeChange) = true := by
    intro finding mem
    simp [kind_of_mem_checkSize mem]
  rw [findings, List.filter_append, List.filter_eq_self.mpr about_files,
    List.filter_eq_nil_iff.mpr about_size, List.append_nil]

/-- All findings but those about churn are about added lines. -/
theorem filter_findings_ne_churn (limits : Limits) (diff : Diff) :
    (limits.findings diff).filter (fun finding => finding.excess.kind ≠ .churn) =
      diff.files.flatMap limits.checkAdded ++ limits.checkSize diff := by
  have about_churn : ∀ file, ∀ finding ∈ limits.checkChurn file,
      ¬decide (finding.excess.kind ≠ .churn) = true := by
    intro file finding mem
    simp [kind_of_mem_checkChurn mem]
  have about_added : ∀ file, ∀ finding ∈ limits.checkAdded file,
      decide (finding.excess.kind ≠ .churn) = true := by
    intro file finding mem
    rcases kind_of_mem_checkAdded mem with kind_eq | kind_eq <;> simp [kind_eq]
  have about_size : ∀ finding ∈ limits.checkSize diff,
      decide (finding.excess.kind ≠ .churn) = true := by
    intro finding mem
    simp [kind_of_mem_checkSize mem]
  have of_file : ∀ file ∈ diff.files,
      (limits.checkFile file).filter (fun finding => finding.excess.kind ≠ .churn) =
        limits.checkAdded file := by
    intro file _
    rw [checkFile_eq, List.filter_append, List.filter_eq_nil_iff.mpr (about_churn file),
      List.filter_eq_self.mpr (about_added file), List.nil_append]
  rw [findings, List.filter_append, List.filter_eq_self.mpr about_size, List.filter_flatMap,
    List.flatMap_congr of_file]

end Limits

/-! ## Added lines -/

/-- The hunk with its added lines alone. -/
def Hunk.addedOnly (hunk : Hunk) : Hunk :=
  { hunk with lines := hunk.lines.filter Line.isAdded }

/-- The file with its added lines alone. -/
def FileDiff.addedOnly (file : FileDiff) : FileDiff :=
  { file with hunks := file.hunks.map Hunk.addedOnly }

/-- The diff with its added lines alone. -/
def Diff.addedOnly (diff : Diff) : Diff where
  files := diff.files.map FileDiff.addedOnly

@[simp]
theorem Hunk.addedLines_addedOnly (hunk : Hunk) : hunk.addedOnly.addedLines = hunk.addedLines := by
  rw [addedLines, addedOnly, List.filterMap_filter, addedLines]
  congr 1
  funext line
  cases line <;> rfl

@[simp]
theorem FileDiff.addedLines_addedOnly (file : FileDiff) :
    file.addedOnly.addedLines = file.addedLines := by
  simp [addedLines, addedOnly, List.flatMap_map]

@[simp]
theorem FileDiff.additions_addedOnly (file : FileDiff) :
    file.addedOnly.additions = file.additions := by
  rw [← length_addedLines, ← length_addedLines, addedLines_addedOnly]

/-- The added lines of a diff are those of its files. -/
theorem Diff.additions_eq_length (diff : Diff) :
    diff.additions = (diff.files.flatMap FileDiff.addedLines).length := by
  rw [additions, List.countP_flatMap, List.length_flatMap]
  congr 2
  funext file
  exact file.length_addedLines.symm

@[simp]
theorem Diff.additions_addedOnly (diff : Diff) : diff.addedOnly.additions = diff.additions := by
  simp [additions_eq_length, addedOnly, List.flatMap_map]

theorem Rule.scan_addedOnly (rules : List Rule) (diff : Diff) :
    scan rules diff.addedOnly = scan rules diff := by
  have of_file : ∀ file : FileDiff, scanFile rules file.addedOnly = scanFile rules file := by
    intro file
    rw [scanFile, FileDiff.addedLines_addedOnly]
    rfl
  simp [scan, Diff.addedOnly, List.flatMap_map, of_file]

namespace Limits

theorem checkAdded_addedOnly (limits : Limits) (file : FileDiff) :
    limits.checkAdded file.addedOnly = limits.checkAdded file := by
  have functions_eq : ∀ hunk : Hunk,
      limits.checkFunctions file.filename hunk.addedOnly =
        limits.checkFunctions file.filename hunk := by
    intro hunk
    rw [checkFunctions, Hunk.addedLines_addedOnly, checkFunctions]
  rw [checkAdded, checkNesting, FileDiff.addedLines_addedOnly]
  simp [FileDiff.addedOnly, List.flatMap_map, functions_eq, checkAdded, checkNesting]

theorem checkSize_addedOnly (limits : Limits) (diff : Diff) :
    limits.checkSize diff.addedOnly = limits.checkSize diff := by
  rw [checkSize, Diff.additions_addedOnly]
  simp [Diff.addedOnly, checkSize, Function.comp_def, FileDiff.addedOnly]

/-- Without the removed lines of a diff, only the findings about churn can be others. -/
theorem filter_findings_addedOnly (limits : Limits) (diff : Diff) :
    (limits.findings diff.addedOnly).filter (fun finding => finding.excess.kind ≠ .churn) =
      (limits.findings diff).filter fun finding => finding.excess.kind ≠ .churn := by
  rw [filter_findings_ne_churn, filter_findings_ne_churn, checkSize_addedOnly]
  simp [Diff.addedOnly, List.flatMap_map, checkAdded_addedOnly]

end Limits

/-! ## Nothing added -/

namespace Diff

variable {diff : Diff}

theorem addedLines_of_nothing_added (adds_none : diff.hasAdditions = false) {file : FileDiff}
    (file_mem : file ∈ diff.files) : file.addedLines = [] := by
  by_contra nonempty
  obtain ⟨line, line_mem⟩ := List.exists_mem_of_ne_nil _ nonempty
  have adds := hasAdditions_of_mem file_mem line_mem
  rw [adds_none] at adds
  contradiction

theorem additions_of_nothing_added (adds_none : diff.hasAdditions = false) {file : FileDiff}
    (file_mem : file ∈ diff.files) : file.additions = 0 := by
  rw [← file.length_addedLines, addedLines_of_nothing_added adds_none file_mem]
  rfl

end Diff

theorem Rule.scan_of_nothing_added {diff : Diff} (adds_none : diff.hasAdditions = false)
    (rules : List Rule) : scan rules diff = [] := by
  rw [scan, List.flatMap_eq_nil_iff]
  intro file file_mem
  rw [scanFile, Diff.addedLines_of_nothing_added adds_none file_mem]
  rfl

namespace Limits

/-- Where nothing is added, the findings are about churn. -/
theorem findings_of_nothing_added {limits : Limits} (nonnegative : 0 ≤ limits.totalAdditions)
    {diff : Diff} (adds_none : diff.hasAdditions = false) :
    limits.findings diff = diff.files.flatMap limits.checkChurn := by
  have no_additions : diff.additions = 0 := by simpa [Diff.hasAdditions] using adds_none
  have of_file : ∀ file ∈ diff.files, limits.checkFile file = limits.checkChurn file := by
    intro file file_mem
    have no_lines := Diff.addedLines_of_nothing_added adds_none file_mem
    have no_hunk_lines : ∀ hunk ∈ file.hunks, hunk.addedLines = [] :=
      List.flatMap_eq_nil_iff.mp no_lines
    have no_functions : file.hunks.flatMap (limits.checkFunctions file.filename) = [] := by
      rw [List.flatMap_eq_nil_iff]
      intro hunk hunk_mem
      simp [checkFunctions, no_hunk_lines hunk hunk_mem, functionSpans]
    have no_nesting : limits.checkNesting file = [] := by
      simp [checkNesting, no_lines]
    rw [checkFile_eq, checkAdded, no_functions, no_nesting, List.append_nil, List.append_nil]
  have no_size : limits.checkSize diff = [] := by
    rw [checkSize, no_additions, if_neg (by simpa using nonnegative)]
  rw [findings, no_size, List.append_nil, List.flatMap_congr of_file]

end Limits

end DiffReview
