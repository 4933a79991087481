import DiffReview.Proofs.Except
import DiffReview.Proofs.Summary.Layout
import DiffReview.Proofs.Text.Decimal

/-!
# What a summary shows

What is shown of a diff, before it is written out: of each file worth reviewing its path and its
status, and of each hunk with an added line its header and the lines near added ones, with a gap
wherever lines are left out.  The sections of a summary are the rows of that, and a summary that is
not cut has no other rows but blank ones.
-/

namespace DiffReview

open Text

namespace Summary

/-- A row of the shown part of a hunk: a line with its number in the new revision, which a removed
line lacks, or a gap between two such lines. -/
inductive Entry
  | gap
  | added (number : Nat) (content : String)
  | removed (content : String)
  | context (number : Nat) (content : String)
deriving DecidableEq, Repr

/-- What is shown of a hunk. -/
@[ext]
structure ShownHunk where
  /-- The header line. -/
  header : String
  /-- The lines and gaps below it. -/
  entries : List Entry
deriving DecidableEq, Repr

/-- What is shown of a file. -/
@[ext]
structure ShownFile where
  /-- The path. -/
  filename : String
  /-- How the file changed. -/
  status : FileStatus
  /-- The hunks of which anything is shown. -/
  hunks : List ShownHunk
deriving DecidableEq, Repr

/-- What is shown of a line. -/
def Entry.ofLine : Line → Entry
  | .added content newNumber => added newNumber content
  | .removed content _ => removed content
  | .context content _ newNumber => context newNumber content

/-- The entries of lines with their indices; `previous` is the index shown last. -/
def entriesFrom (previous : Option Nat) : List (Line × Nat) → List Entry
  | [] => []
  | (line, index) :: rest =>
    (if previous.any fun last => index != last + 1 then [.gap] else []) ++
      .ofLine line :: entriesFrom (some index) rest

end Summary

open Summary

/-- Whether a line is added in the hunk. -/
def Hunk.hasAdditions (hunk : Hunk) : Bool :=
  hunk.lines.any Line.isAdded

/-- What is shown of a hunk: the lines that are at most `reach` lines away from an added one. -/
def Hunk.shown (reach : Int) (hunk : Hunk) : ShownHunk where
  header := hunk.header
  entries := entriesFrom none (shownLines reach hunk.lines)

/-- What is shown of a file. -/
def FileDiff.shown (reach : Int) (file : FileDiff) : ShownFile where
  filename := file.filename
  status := file.status
  hunks := (file.hunks.filter Hunk.hasAdditions).map (Hunk.shown reach)

/-- What is shown of a diff: the files worth reviewing, in order. -/
def Diff.shown (reach : Int) (diff : Diff) : List ShownFile :=
  diff.reviewableFiles.map (FileDiff.shown reach)

/-- The number that a line is shown with, if any, has no more digits than a text may hold. -/
def Line.IsWritable (line : Line) : Prop :=
  ∀ number ∈ line.newNumber?, number < Nat.pow 10 maxDigits

theorem Line.isWritable_iff {line : Line} {number : Nat}
    (number_eq : line.newNumber? = some number) :
    line.IsWritable ↔ number < Nat.pow 10 maxDigits := by
  simp [IsWritable, number_eq]

theorem Line.isWritable_of_small {line : Line} (small : ∀ number ∈ line.newNumber?, number < 10) :
    line.IsWritable := by
  intro number number_mem
  exact Nat.lt_of_lt_of_le (small number number_mem) ten_le_pow_maxDigits

/-- All that is shown of the hunk can be written. -/
def Hunk.IsWritable (reach : Int) (hunk : Hunk) : Prop :=
  ∀ entry ∈ shownLines reach hunk.lines, entry.1.IsWritable

/-- All that is shown of the file can be written. -/
def FileDiff.IsWritable (reach : Int) (file : FileDiff) : Prop :=
  ∀ hunk ∈ file.hunks, hunk.IsWritable reach

/-- All that is shown of the diff can be written. -/
def Diff.IsWritable (reach : Int) (diff : Diff) : Prop :=
  ∀ file ∈ diff.reviewableFiles, file.IsWritable reach

namespace Summary

/-! ## Rows -/

/-- A line with its sigil and the digits of its number. -/
def numberedRow (sigil : Char) (digits : List Char) (content : String) : List Char :=
  sigil :: padStart 5 digits ++ " | ".toList ++ content.toList

/-- The row of an entry. -/
def Entry.row : Entry → List Char
  | gap => "...".toList
  | added number content => numberedRow '+' (Nat.toDigits 10 number) content
  | removed content => numberedRow '-' [] content
  | context number content => numberedRow ' ' (Nat.toDigits 10 number) content

/-- The rows of what is shown of a hunk. -/
def ShownHunk.rows (hunk : ShownHunk) : List (List Char) :=
  hunk.header.toList :: hunk.entries.map Entry.row

/-- The row that opens what is shown of a file. -/
def ShownFile.headerRow (file : ShownFile) : List Char :=
  "--- File: ".toList ++ file.filename.toList ++ " (".toList ++ file.status.name.toList ++
    ") ---".toList

/-- The rows of what is shown of a file. -/
def ShownFile.rows (file : ShownFile) : List (List Char) :=
  file.headerRow :: file.hunks.flatMap ShownHunk.rows

/-- The text of an entry. -/
def Entry.text (entry : Entry) : String :=
  String.ofList entry.row

/-- The lines that a section has of a hunk: none if nothing is shown of it. -/
def ShownHunk.texts (hunk : ShownHunk) : List String :=
  if hunk.entries.isEmpty then [] else hunk.header :: hunk.entries.map Entry.text

end Summary

/-- The lines of the section of a file. -/
def FileDiff.sectionTexts (reach : Int) (file : FileDiff) : List String :=
  sectionHeader file :: (file.hunks.map fun hunk => (hunk.shown reach).texts).flatten

namespace Summary

theorem toList_sectionHeader (file : FileDiff) (reach : Int) :
    (sectionHeader file).toList = (file.shown reach).headerRow := by
  unfold sectionHeader ShownFile.headerRow FileDiff.shown
  simp only [String.toList_append, toString]

theorem showLine_eq_ok_iff {line : Line} {shown : String} :
    showLine line = .ok shown ↔ line.IsWritable ∧ shown = (Entry.ofLine line).text := by
  have of_number : ∀ {sigil : Char} {number : Nat} {content : String},
      (do
        let digits ← writeNumber number
        return String.ofList
          (sigil :: padStart 5 digits ++ " | ".toList ++ content.toList)) = .ok shown ↔
        number < Nat.pow 10 maxDigits ∧
          shown = String.ofList (numberedRow sigil (Nat.toDigits 10 number) content) := by
    intro sigil number content
    simp only [bind_eq_ok_iff, writeNumber_eq_ok_iff]
    constructor
    · rintro ⟨_, ⟨small, rfl⟩, shows⟩
      exact ⟨small, (Except.ok.inj shows).symm⟩
    · rintro ⟨small, rfl⟩
      exact ⟨_, ⟨small, rfl⟩, rfl⟩
  cases line with
  | added content number => exact of_number.trans (and_congr_left' (Line.isWritable_iff rfl).symm)
  | removed content number =>
      rw [and_iff_right (by simp [Line.IsWritable, Line.newNumber?])]
      exact (Except.ok.injEq _ _).to_iff.trans eq_comm
  | context content oldNumber number =>
      exact of_number.trans (and_congr_left' (Line.isWritable_iff rfl).symm)

theorem showFrom_eq_ok_iff {previous : Option Nat} {lines : List (Line × Nat)}
    {shown : List String} :
    showFrom previous lines = .ok shown ↔
      (∀ entry ∈ lines, entry.1.IsWritable) ∧
        shown = (entriesFrom previous lines).map Entry.text := by
  induction lines generalizing previous shown with
  | nil => simp [showFrom, entriesFrom, eq_comm]
  | cons entry rest induction =>
      obtain ⟨line, index⟩ := entry
      simp only [showFrom, bind_eq_ok_iff, showLine_eq_ok_iff, induction, List.forall_mem_cons]
      constructor
      · rintro ⟨_, ⟨writable, rfl⟩, _, ⟨rest_writable, rfl⟩, shows⟩
        refine ⟨⟨writable, rest_writable⟩, ?_⟩
        split at shows
        · rename_i apart
          rw [← Except.ok.inj shows, entriesFrom, if_pos apart]
          rfl
        · rename_i adjacent
          rw [← Except.ok.inj shows, entriesFrom, if_neg adjacent]
          rfl
      · rintro ⟨⟨writable, rest_writable⟩, rfl⟩
        refine ⟨_, ⟨writable, rfl⟩, _, ⟨rest_writable, rfl⟩, ?_⟩
        rw [entriesFrom]
        split <;> rfl

theorem entriesFrom_eq_nil_iff {previous : Option Nat} {lines : List (Line × Nat)} :
    entriesFrom previous lines = [] ↔ lines = [] := by
  cases lines <;> simp [entriesFrom]

theorem eq_gap_or_exists_of_mem_entriesFrom {previous : Option Nat} {lines : List (Line × Nat)}
    {entry : Entry} (mem : entry ∈ entriesFrom previous lines) :
    entry = .gap ∨ ∃ shown ∈ lines, entry = .ofLine shown.1 := by
  induction lines generalizing previous with
  | nil => simp [entriesFrom] at mem
  | cons shown rest induction =>
      rw [entriesFrom, List.mem_append, List.mem_cons] at mem
      rcases mem with gap | rfl | later
      · left
        split at gap
        · exact List.mem_singleton.mp gap
        · simp at gap
      · exact .inr ⟨shown, List.mem_cons_self, rfl⟩
      · refine (induction later).imp_right ?_
        rintro ⟨other, other_mem, rfl⟩
        exact ⟨other, List.mem_cons_of_mem _ other_mem, rfl⟩

/-- The lines of a hunk that are shown are lines of it. -/
theorem eq_gap_or_exists_of_mem_shown {reach : Int} {hunk : Hunk} {entry : Entry}
    (mem : entry ∈ (hunk.shown reach).entries) :
    entry = .gap ∨ ∃ line ∈ hunk.lines, entry = .ofLine line := by
  refine (eq_gap_or_exists_of_mem_entriesFrom mem).imp_right ?_
  rintro ⟨⟨line, index⟩, shown_mem, rfl⟩
  exact ⟨line, List.mem_of_getElem? (mem_shownLines_iff.mp shown_mem).1, rfl⟩

/-- An added line is near itself. -/
theorem mem_shownLines_of_isAdded {reach : Int} (nonnegative : 0 ≤ reach) {lines : List Line}
    {line : Line} (added : line.isAdded = true) {index : Nat} (line_eq : lines[index]? = some line) :
    (line, index) ∈ shownLines reach lines := by
  refine mem_shownLines_iff.mpr ⟨line_eq, index, ?_, ?_, ?_⟩
  · rw [line_eq]
    exact added
  · rwa [Int.sub_self]
  · rwa [Int.sub_self]

/-- Something is shown of the hunks with added lines, and of no others. -/
theorem shownLines_eq_nil_iff {reach : Int} (nonnegative : 0 ≤ reach) {hunk : Hunk} :
    shownLines reach hunk.lines = [] ↔ hunk.hasAdditions = false := by
  rw [List.eq_nil_iff_forall_not_mem, Hunk.hasAdditions, List.any_eq_false]
  constructor
  · intro none_shown line line_mem added
    obtain ⟨index, line_eq⟩ := List.mem_iff_getElem?.mp line_mem
    exact none_shown (line, index) (mem_shownLines_of_isAdded nonnegative added line_eq)
  · rintro none_added ⟨line, index⟩ shown
    obtain ⟨-, other, added, -⟩ := mem_shownLines_iff.mp shown
    obtain ⟨found, found_eq, isAdded⟩ := (Option.any_eq_true _ _).mp added
    exact none_added found (List.mem_of_getElem? found_eq) isAdded

/-- An added line is always shown, so its number has to be short enough. -/
theorem lt_of_isWritable {reach : Int} (nonnegative : 0 ≤ reach) {hunk : Hunk}
    (writable : hunk.IsWritable reach) {content : String} {number : Nat}
    (line_mem : .added content number ∈ hunk.lines) : number < Nat.pow 10 maxDigits := by
  obtain ⟨index, line_eq⟩ := List.mem_iff_getElem?.mp line_mem
  exact (Line.isWritable_iff rfl).mp
    (writable _ (mem_shownLines_of_isAdded nonnegative rfl line_eq))

theorem hunkTexts_eq_ok_iff {reach : Int} {hunk : Hunk} {part : List String} :
    (do
      let shown ← showHunk reach hunk
      return if shown.isEmpty then [] else hunk.header :: shown) = .ok part ↔
      hunk.IsWritable reach ∧ part = (hunk.shown reach).texts := by
  simp only [bind_eq_ok_iff, showHunk, showFrom_eq_ok_iff]
  constructor
  · rintro ⟨_, ⟨writable, rfl⟩, shows⟩
    refine ⟨writable, ?_⟩
    rw [← Except.ok.inj shows, List.isEmpty_map]
    rfl
  · rintro ⟨writable, rfl⟩
    refine ⟨_, ⟨writable, rfl⟩, ?_⟩
    rw [List.isEmpty_map]
    rfl

theorem fileSection_eq_ok_iff {reach : Int} (file : FileDiff) (rows : List String) :
    fileSection reach file = .ok rows ↔
      file.IsWritable reach ∧ rows = file.sectionTexts reach := by
  simp only [fileSection, bind_eq_ok_iff, mapM_eq_ok_iff fun _ _ => hunkTexts_eq_ok_iff]
  constructor
  · rintro ⟨_, ⟨writable, rfl⟩, writes⟩
    exact ⟨writable, (Except.ok.inj writes).symm⟩
  · rintro ⟨writable, rfl⟩
    exact ⟨_, ⟨writable, rfl⟩, rfl⟩

/-- The sections of a summary are those of the files worth reviewing, and they are written if all
that is shown can be. -/
theorem sections_eq_ok_iff {reach : Int} {diff : Diff} {parts : List (List String)} :
    sections reach diff = .ok parts ↔
      diff.IsWritable reach ∧ parts = diff.reviewableFiles.map (FileDiff.sectionTexts reach) :=
  mapM_eq_ok_iff fileSection_eq_ok_iff

/-- The rows of a hunk in the section of its file. -/
def hunkRows (reach : Int) (hunk : Hunk) : List (List Char) :=
  if hunk.hasAdditions then (hunk.shown reach).rows else []

theorem map_toList_texts_shown {reach : Int} (nonnegative : 0 ≤ reach) (hunk : Hunk) :
    (hunk.shown reach).texts.map String.toList = hunkRows reach hunk := by
  have empty_iff : (hunk.shown reach).entries = [] ↔ hunk.hasAdditions = false :=
    entriesFrom_eq_nil_iff.trans (shownLines_eq_nil_iff nonnegative)
  have row_eq : String.toList ∘ Entry.text = Entry.row := by
    funext entry
    exact String.toList_ofList
  rw [ShownHunk.texts, hunkRows]
  by_cases empty : (hunk.shown reach).entries = []
  · rw [empty_iff.mp empty, empty]
    rfl
  · rw [if_neg (by simpa using empty), if_pos (by simpa [empty_iff] using empty), List.map_cons,
      List.map_map, row_eq]
    rfl

/-- The section of a file has the rows of what is shown. -/
theorem map_toList_sectionTexts {reach : Int} (nonnegative : 0 ≤ reach) (file : FileDiff) :
    (file.sectionTexts reach).map String.toList = (file.shown reach).rows := by
  have below : (file.hunks.map (hunkRows reach)).flatten =
      (file.shown reach).hunks.flatMap ShownHunk.rows := by
    rw [FileDiff.shown, List.flatMap_map]
    induction file.hunks with
    | nil => rfl
    | cons hunk hunks induction =>
        rw [List.map_cons, List.flatten_cons, induction, hunkRows]
        by_cases adds : hunk.hasAdditions = true <;> simp [adds]
  have texts_eq : List.map String.toList ∘ (fun hunk => (hunk.shown reach).texts) =
      hunkRows reach :=
    funext fun hunk => map_toList_texts_shown nonnegative hunk
  rw [FileDiff.sectionTexts, List.map_cons, toList_sectionHeader file reach, List.map_flatten,
    List.map_map, texts_eq, below]
  rfl

/-- The sections of a summary are the rows of what is shown. -/
theorem map_toList_of_sections {reach : Int} (nonnegative : 0 ≤ reach) {diff : Diff}
    {parts : List (List String)} (writes : sections reach diff = .ok parts) :
    parts.map (List.map String.toList) = (diff.shown reach).map ShownFile.rows := by
  obtain ⟨-, rfl⟩ := sections_eq_ok_iff.mp writes
  rw [Diff.shown, List.map_map, List.map_map]
  exact List.map_congr_left fun file _ => map_toList_sectionTexts nonnegative file

/-! ## Texts -/

/-- The rows of a text that are not blank. -/
def textRows (text : String) : List (List Char) :=
  (text.toList.splitOn '\n').filter fun row => !row.isEmpty

theorem textRows_intercalate {rows : List String} (one_line : ∀ row ∈ rows, '\n' ∉ row.toList) :
    textRows ("\n".intercalate rows) = (nonblank rows).map String.toList := by
  have text_eq : ("\n".intercalate rows).toList = ['\n'].intercalate (rows.map String.toList) :=
    String.toList_intercalate
  rw [textRows, text_eq, nonblank]
  by_cases empty : rows = []
  · rw [empty]
    rfl
  · rw [List.splitOn_intercalate '\n' (by simpa using one_line) (by simpa using empty),
      List.filter_map]
    congr 2
    funext row
    rw [Function.comp_apply, Bool.eq_iff_iff]
    simp

theorem newline_not_mem_notice (omitted : Nat) (maxLines : Int) :
    '\n' ∉ (notice omitted maxLines).toList := by
  have in_digits : ∀ number, '\n' ∉ Nat.toDigits 10 number := not_mem_toDigits (by decide)
  have in_signed : '\n' ∉ signedDigits maxLines := by
    cases maxLines with
    | ofNat number => exact in_digits number
    | negSucc number => exact List.not_mem_cons_of_ne_of_not_mem (by decide) (in_digits _)
  unfold notice noticeText
  simp only [String.toList_append, List.mem_append, not_or, toString, String.toList_ofList]
  exact ⟨⟨⟨⟨by decide, in_digits omitted⟩, by decide⟩, in_signed⟩, by decide⟩

end Summary

/-- No line of the summary is left out. -/
def Diff.IsShownWhole (options : SummaryOptions) (diff : Diff) : Prop :=
  ∀ parts, sections options.contextLines diff = .ok parts →
    (parts.foldl (Layout.add options.maxLines) {}).omitted = 0

instance (options : SummaryOptions) (diff : Diff) : Decidable (diff.IsShownWhole options) :=
  match parts_eq : sections options.contextLines diff with
  | .error _ => isTrue fun _ same => nomatch parts_eq.symm.trans same
  | .ok parts =>
    decidable_of_iff ((parts.foldl (Layout.add options.maxLines) {}).omitted = 0)
      ⟨fun none_omitted _ same => Except.ok.inj (parts_eq.symm.trans same) ▸ none_omitted,
        fun whole => whole parts parts_eq⟩

/-- The rows of all that is shown of a diff. -/
def Diff.shownRows (reach : Int) (diff : Diff) : List (List Char) :=
  (diff.shown reach).flatMap ShownFile.rows

/-- No row of a section is blank or breaks a line. -/
def Diff.IsPlain (reach : Int) (diff : Diff) : Prop :=
  ∀ file ∈ diff.reviewableFiles, ∀ row ∈ file.sectionTexts reach, row ≠ "" ∧ '\n' ∉ row.toList

/-- The rows of all sections, with a blank one between any two of them. -/
def Diff.summaryRows (reach : Int) (diff : Diff) : List String :=
  [""].intercalate (diff.reviewableFiles.map (FileDiff.sectionTexts reach))

namespace Diff.IsPlain

variable {diff : Diff} {reach : Int} (plain : diff.IsPlain reach)

include plain

theorem areSeparable :
    AreSeparable "" (diff.reviewableFiles.map (FileDiff.sectionTexts reach)) := by
  intro rows rows_mem
  obtain ⟨file, file_mem, rfl⟩ := List.mem_map.mp rows_mem
  exact ⟨List.cons_ne_nil _ _, fun blank_mem => (plain file file_mem "" blank_mem).1 rfl⟩

theorem newline_not_mem_of_mem_cutRows {maxLines : Int} {row : String}
    (row_mem : row ∈ cutRows maxLines (diff.summaryRows reach)) : '\n' ∉ row.toList := by
  rcases mem_or_eq_of_mem_cutRows row_mem with in_rows | ⟨omitted, rfl⟩
  · rcases plain.areSeparable.eq_or_mem_of_mem_intercalate in_rows with rfl | in_section
    · exact List.not_mem_nil
    · obtain ⟨rows, rows_mem, row_mem⟩ := List.mem_flatten.mp in_section
      obtain ⟨file, file_mem, rfl⟩ := List.mem_map.mp rows_mem
      exact (plain file file_mem row row_mem).2
  · exact newline_not_mem_notice _ _

end Diff.IsPlain

/-- A summary holds the rows of the sections, cut, if all that is to be shown can be written. -/
theorem Diff.summary_eq_ok_iff {diff : Diff} {options : SummaryOptions}
    (plain : diff.IsPlain options.contextLines) {summary : String} :
    diff.summary options = .ok summary ↔
      (diff.IsWritable options.contextLines ∧
        IsCutWritable options.maxLines (diff.summaryRows options.contextLines)) ∧
      summary = "\n".intercalate
        (cutRows options.maxLines (diff.summaryRows options.contextLines)) := by
  simp only [Diff.summary, bind_eq_ok_iff, sections_eq_ok_iff]
  constructor
  · rintro ⟨_, ⟨writable, rfl⟩, lines, laid_out, summarizes⟩
    obtain ⟨cut_writable, rfl⟩ := (layOut_eq_ok_iff plain.areSeparable).mp laid_out
    exact ⟨⟨writable, cut_writable⟩, (Except.ok.inj summarizes).symm⟩
  · rintro ⟨⟨writable, cut_writable⟩, rfl⟩
    exact ⟨_, ⟨writable, rfl⟩, _,
      (layOut_eq_ok_iff plain.areSeparable).mpr ⟨cut_writable, rfl⟩, rfl⟩

/-- A summary has the first rows of what is shown, and all of them if no line is left out; behind
them there is at most the notice that lines are left out. -/
theorem Diff.exists_textRows_of_summary {diff : Diff} {options : SummaryOptions}
    (nonnegative : 0 ≤ options.contextLines) (plain : diff.IsPlain options.contextLines)
    {summary : String} (summarizes : diff.summary options = .ok summary) :
    ∃ rows notice, textRows summary = rows ++ notice ∧
      rows <+: diff.shownRows options.contextLines ∧
      (∀ row ∈ notice, row.head? = some '[') ∧
      (diff.IsShownWhole options →
        rows = diff.shownRows options.contextLines ∧ notice = []) := by
  obtain ⟨⟨writable, -⟩, rfl⟩ := (summary_eq_ok_iff plain).mp summarizes
  have writes := sections_eq_ok_iff.mpr ⟨writable, rfl⟩
  have rows_eq : (nonblank (diff.summaryRows options.contextLines)).map String.toList =
      diff.shownRows options.contextLines := by
    rw [summaryRows, nonblank_intercalate plain.areSeparable, List.map_flatten,
      map_toList_of_sections nonnegative writes]
    rfl
  obtain ⟨-, omitted_eq⟩ := cuts_foldl_add plain.areSeparable options.maxLines
  rw [← summaryRows] at omitted_eq
  rw [textRows_intercalate fun row => plain.newline_not_mem_of_mem_cutRows, nonblank_cutRows,
    List.map_append, ← rows_eq]
  refine ⟨_, _, rfl, ?_, ?_, ?_⟩
  · exact ((List.take_prefix _ _).filter _).map _
  · intro row row_mem
    split at row_mem
    · contradiction
    · rw [List.mem_singleton.mp row_mem]
      exact head?_notice _ _
  · intro all_shown
    have none_omitted := omitted_eq.symm.trans (all_shown _ writes)
    rw [nonblank_take_eq none_omitted, if_pos none_omitted]
    exact ⟨rfl, rfl⟩

end DiffReview
