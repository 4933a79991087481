import DiffReview.Proofs.Handling
import DiffReview.Proofs.Diff.Reading

/-!
# Diffs that cannot be read

Reading a diff fails at the first number of a hunk header that has too many digits, but only below a
file header; every other text is read.  A service that meets such a diff does nothing with it.
-/

namespace DiffReview

open Text

/-! ## Numbers with too many digits -/

theorem Text.readDigits_bind {α : Type} (digits : List Char)
    (next : Nat → Except DigitLimitError α) :
    readDigits digits >>= next =
      if maxDigits < digits.length then .error (.reading digits.length)
      else next (digitsValue digits) := by
  rw [readDigits]
  split <;> rfl

namespace HunkHeader

/-- The numbers of a header in the order in which they are read, the starts before the counts; a
missing count is a one. -/
def numerals (header : HunkHeader) : List (List Char) :=
  [header.old.start, header.new.start, header.old.count.getD ['1'], header.new.count.getD ['1']]

/-- The first number of a header that has too many digits. -/
def overlong? (header : HunkHeader) : Option (List Char) :=
  header.numerals.find? fun numeral => maxDigits < numeral.length

/-- The first number with too many digits is the one that cannot be read. -/
theorem numbers_eq_error_iff {header : HunkHeader} {error : DigitLimitError} :
    header.numbers = .error error ↔
      ∃ numeral, header.overlong? = some numeral ∧ error = .reading numeral.length := by
  simp only [numbers, readDigits_bind, overlong?, numerals, List.find?_cons, List.find?_nil]
  split_ifs with oldStart newStart oldCount newCount <;>
    simp [*, pure, Except.pure, eq_comm]

end HunkHeader

/-- A row is the header of a hunk, and this is the first of its numbers with too many digits. -/
def IsOverlong (row numeral : List Char) : Prop :=
  ∃ header : HunkHeader, header.Heads row ∧ header.overlong? = some numeral

theorem exists_isOverlong_iff {row : List Char} :
    (∃ numeral, IsOverlong row numeral) ↔
      ∃ header : HunkHeader, header.Heads row ∧
        ∃ numeral ∈ header.numerals, maxDigits < numeral.length := by
  have found_iff : ∀ header : HunkHeader, (∃ numeral, header.overlong? = some numeral) ↔
      ∃ numeral ∈ header.numerals, maxDigits < numeral.length := by
    intro header
    rw [← Option.isSome_iff_exists, HunkHeader.overlong?, List.find?_isSome]
    simp
  simp only [IsOverlong, ← found_iff]
  exact exists_comm.trans (exists_congr fun header => exists_and_left)

theorem IsOverlong.unique {row left right : List Char} (left_overlong : IsOverlong row left)
    (right_overlong : IsOverlong row right) : left = right := by
  obtain ⟨header, heads, found⟩ := left_overlong
  obtain ⟨other, other_heads, other_found⟩ := right_overlong
  rw [heads.unique other_heads] at found
  exact Option.some.inj (found.symm.trans other_found)

theorem not_isFileHeader_of_isOverlong {row numeral : List Char}
    (overlong : IsOverlong row numeral) : ¬IsFileHeader row := by
  obtain ⟨header, heads, -⟩ := overlong
  exact fun isFile => not_isHunkHeader_of_isFileHeader isFile ⟨header, heads⟩

/-- Of the rows of a text, the first that has a number with too many digits has this one first. -/
inductive FirstOverlong : List (List Char) → List Char → Prop
  | here {row numeral : List Char} (overlong : IsOverlong row numeral) (rest : List (List Char)) :
      FirstOverlong (row :: rest) numeral
  | later {row numeral : List Char} {rest : List (List Char)}
      (fits : ∀ other, ¬IsOverlong row other) (first : FirstOverlong rest numeral) :
      FirstOverlong (row :: rest) numeral

theorem firstOverlong_cons_iff {row numeral : List Char} {rows : List (List Char)} :
    FirstOverlong (row :: rows) numeral ↔
      IsOverlong row numeral ∨ (∀ other, ¬IsOverlong row other) ∧ FirstOverlong rows numeral := by
  constructor
  · rintro (⟨overlong, -⟩ | ⟨fits, first⟩)
    · exact .inl overlong
    · exact .inr ⟨fits, first⟩
  · rintro (overlong | ⟨fits, first⟩)
    · exact .here overlong rows
    · exact .later fits first

theorem exists_firstOverlong_iff {rows : List (List Char)} :
    (∃ numeral, FirstOverlong rows numeral) ↔ ∃ row ∈ rows, ∃ numeral, IsOverlong row numeral := by
  induction rows with
  | nil =>
      refine iff_of_false ?_ (by simp)
      rintro ⟨numeral, ⟨⟩⟩
  | cons row rows induction =>
      simp only [firstOverlong_cons_iff, exists_or, exists_and_left, induction,
        List.exists_mem_cons_iff]
      by_cases overlong : ∃ numeral, IsOverlong row numeral
      · simp [overlong]
      · simp [not_exists.mp overlong]

/-! ## The rows of a text -/

namespace ReadState

/-- With a file open, a row fails exactly if it is a hunk header with too many digits. -/
theorem read_eq_error_iff {state : ReadState} {file : OpenFile}
    (isOpen : state.current = some file) {row : List Char} {error : DigitLimitError} :
    state.read row = .error error ↔
      ∃ numeral, IsOverlong row numeral ∧ error = .reading numeral.length := by
  by_cases isFile : IsFileHeader row
  · obtain ⟨header, heads⟩ := isFile
    rw [read_of_heads state heads]
    refine iff_of_false nofun ?_
    rintro ⟨numeral, overlong, -⟩
    exact not_isFileHeader_of_isOverlong overlong ⟨header, heads⟩
  · rw [read, FileHeader.ofLine?_eq_none_iff.mpr isFile]
    simp only [isOpen, readInFile]
    cases found : HunkHeader.ofLine? row with
    | none =>
        rw [HunkHeader.ofLine?_eq_none_iff] at found
        refine iff_of_false ?_ ?_
        · cases file.hunk with
          | none => simp
          | some hunk => cases pushed : hunk.push? row <;> simp [pushed]
        · rintro ⟨numeral, ⟨header, heads, -⟩, -⟩
          exact found ⟨header, heads⟩
    | some header =>
        rw [HunkHeader.ofLine?_eq_some_iff] at found
        have only : ∀ numeral, IsOverlong row numeral ↔ header.overlong? = some numeral := by
          intro numeral
          refine ⟨?_, fun overlong => ⟨header, found, overlong⟩⟩
          rintro ⟨other, heads, overlong⟩
          rwa [found.unique heads]
        simp only [only, ← HunkHeader.numbers_eq_error_iff]
        cases header.numbers with
        | error failure => simp [bind, Except.bind]
        | ok range => simp [bind, Except.bind, pure, Except.pure]

/-- A file that has been opened stays open until the next one. -/
theorem isSome_current_of_read {state next : ReadState} {row : List Char}
    (isOpen : state.current.isSome) (read_eq : state.read row = .ok next) :
    next.current.isSome := by
  obtain ⟨file, current_eq⟩ := Option.isSome_iff_exists.mp isOpen
  rw [read] at read_eq
  split at read_eq
  · obtain rfl := Except.ok.inj read_eq
    rfl
  · simp only [current_eq, readInFile] at read_eq
    split at read_eq
    · obtain ⟨range, -, ends⟩ := bind_eq_ok_iff.mp read_eq
      obtain rfl := Except.ok.inj ends
      rfl
    · repeat' split at read_eq
      all_goals obtain rfl := Except.ok.inj read_eq
      · rfl
      · rfl
      · exact isOpen

/-- With a file open, rows fail as the first one does that has a number with too many digits. -/
theorem foldlM_eq_error_iff {state : ReadState} (isOpen : state.current.isSome)
    {rows : List (List Char)} {error : DigitLimitError} :
    rows.foldlM read state = .error error ↔
      ∃ numeral, FirstOverlong rows numeral ∧ error = .reading numeral.length := by
  induction rows generalizing state with
  | nil =>
      refine iff_of_false nofun ?_
      rintro ⟨numeral, ⟨⟩, -⟩
  | cons row rows induction =>
      obtain ⟨file, current_eq⟩ := Option.isSome_iff_exists.mp isOpen
      rw [List.foldlM_cons]
      simp only [firstOverlong_cons_iff]
      cases read_eq : state.read row with
      | error failure =>
          obtain ⟨numeral, overlong, rfl⟩ := (read_eq_error_iff current_eq).mp read_eq
          have only : ∀ other, IsOverlong row other ↔ other = numeral :=
            fun other => ⟨fun found => found.unique overlong, fun same => same ▸ overlong⟩
          simp [only, bind, Except.bind, eq_comm]
      | ok next =>
          have fits : ∀ other, ¬IsOverlong row other := by
            intro other overlong
            have fails := (read_eq_error_iff current_eq).mpr ⟨other, overlong, rfl⟩
            simp [read_eq] at fails
          refine (induction (isSome_current_of_read isOpen read_eq)).trans ?_
          simp [fits]

end ReadState

/-! ## Whole texts -/

/-- The rows below the first file header. -/
def AreBelowFileHeader (below rows : List (List Char)) : Prop :=
  ∃ preface header, rows = preface ++ header :: below ∧
    (∀ row ∈ preface, ¬IsFileHeader row) ∧ IsFileHeader header

namespace Diff

theorem foldlM_of_areBelowFileHeader {below rows : List (List Char)}
    (areBelow : AreBelowFileHeader below rows) {error : DigitLimitError} :
    rows.foldlM ReadState.read {} = .error error ↔
      ∃ numeral, FirstOverlong below numeral ∧ error = .reading numeral.length := by
  obtain ⟨preface, header, rfl, plain, fileHeader, heads⟩ := areBelow
  rw [List.foldlM_append, ReadState.foldlM_preface [] 0 plain]
  change ((header :: below).foldlM ReadState.read _) = _ ↔ _
  rw [List.foldlM_cons, ReadState.read_of_heads _ heads]
  exact ReadState.foldlM_eq_error_iff rfl

/-- Without a file header, nothing fails. -/
theorem exists_areBelowFileHeader_of_error {rows : List (List Char)} {error : DigitLimitError}
    (fails : rows.foldlM ReadState.read {} = .error error) :
    ∃ below, AreBelowFileHeader below rows := by
  obtain ⟨⟨preface, files⟩, rows_eq, plain, cut⟩ := DiffSections.exists_isCutOf rows
  cases files with
  | nil =>
      rw [List.flatMap_nil, List.append_nil] at rows_eq
      rw [rows_eq, ReadState.foldlM_preface [] 0 plain] at fails
      contradiction
  | cons file files =>
      exact ⟨_, preface, file.row, rows_eq, plain, _, (cut file List.mem_cons_self).heads⟩

/-- Reading fails as the rows below the first file header do. -/
theorem read_eq_error_iff {text : String} {error : DigitLimitError} :
    read text = .error error ↔
      ∃ below, AreBelowFileHeader below (lines text.toList) ∧
        ∃ numeral, FirstOverlong below numeral ∧ error = .reading numeral.length := by
  rw [read_eq_error_iff_foldlM]
  constructor
  · intro fails
    obtain ⟨below, areBelow⟩ := exists_areBelowFileHeader_of_error fails
    exact ⟨below, areBelow, (foldlM_of_areBelowFileHeader areBelow).mp fails⟩
  · rintro ⟨below, areBelow, first⟩
    exact (foldlM_of_areBelowFileHeader areBelow).mpr first

theorem exists_read_eq_ok_iff {text : String} :
    (∃ reading, read text = .ok reading) ↔
      ∀ below, AreBelowFileHeader below (lines text.toList) → ∀ row ∈ below,
        ∀ header : HunkHeader, header.Heads row → ∀ numeral ∈ header.numerals,
          numeral.length ≤ maxDigits := by
  have never_both : (∃ reading, read text = .ok reading) ↔ ¬∃ error, read text = .error error := by
    cases read text <;> simp
  have fails_iff : (∃ error, read text = .error error) ↔
      ∃ below, AreBelowFileHeader below (lines text.toList) ∧
        ∃ numeral, FirstOverlong below numeral := by
    simp only [read_eq_error_iff]
    constructor
    · rintro ⟨-, below, areBelow, numeral, first, -⟩
      exact ⟨below, areBelow, numeral, first⟩
    · rintro ⟨below, areBelow, numeral, first⟩
      exact ⟨_, below, areBelow, numeral, first, rfl⟩
  rw [never_both, fails_iff]
  simp only [exists_firstOverlong_iff, exists_isOverlong_iff]
  push Not
  rfl

end Diff

/-! ## Services -/

namespace Service

variable {service : Service} {text : String} {error : DigitLimitError}
  (fails : Diff.read text = .error error)

include fails

theorem analyze_of_unreadable : service.analyze text = ⟨[], .error (.digits error)⟩ := by
  have failed := readDiff_of_error fails
  rw [analyze, Action.bind_of_error (by rw [failed]), failed]

theorem handle_of_unreviewed_text {change : Change} {notify : Notifier} {fetch : Fetcher}
    (notifier_eq : service.notifier = some notify) (fetcher_eq : service.fetcher = some fetch)
    (fetched : (fetch change).outcome = .ok text) :
    service.handle change =
      ⟨.fetch change :: (fetch change).effects, .error (.digits error)⟩ := by
  have analyzed : service.analyze text = _ := analyze_of_unreadable fails
  rw [handle_of_unreviewed notifier_eq fetcher_eq fetched (by rw [analyzed]), analyzed,
    List.append_nil]

end Service

namespace Diff

/-- Reading a text fails exactly if a hunk header below the first file header has a number with too
many digits; the error tells of the first one in the first such header.  Every other text is read.
A service that is given such a text, or fetches it, fails with that error and does nothing more. -/
theorem read_fails_at_first_overlong_number (text : String) :
    (∀ error, read text = .error error ↔
      ∃ below, AreBelowFileHeader below (lines text.toList) ∧
        ∃ numeral, FirstOverlong below numeral ∧ error = .reading numeral.length) ∧
    ((∃ reading, read text = .ok reading) ↔
      ∀ below, AreBelowFileHeader below (lines text.toList) → ∀ row ∈ below,
        ∀ header : HunkHeader, header.Heads row → ∀ numeral ∈ header.numerals,
          numeral.length ≤ maxDigits) ∧
    ∀ (service : Service) (error : DigitLimitError), read text = .error error →
      service.analyze text = ⟨[], .error (.digits error)⟩ ∧
      ∀ change notify fetch, service.notifier = some notify → service.fetcher = some fetch →
        (fetch change).outcome = .ok text →
          service.handle change =
            ⟨.fetch change :: (fetch change).effects, .error (.digits error)⟩ := by
  refine ⟨fun error => read_eq_error_iff, exists_read_eq_ok_iff, ?_⟩
  intro service error fails
  refine ⟨Service.analyze_of_unreadable fails, ?_⟩
  intro change notify fetch notifier_eq fetcher_eq fetched
  exact Service.handle_of_unreviewed_text fails notifier_eq fetcher_eq fetched

theorem isOverlong_of_new_start {digits : List Char} (numeral : IsNumeral digits)
    (long : maxDigits < digits.length) :
    IsOverlong ("@@ -1 +".toList ++ digits ++ " @@".toList) digits := by
  have opening : "@@ -1 +".toList = "@@ -".toList ++ ['1'] ++ " +".toList := by decide +kernel
  have one : IsNumeral ['1'] := ⟨by decide, List.forall_mem_singleton.mpr (by decide)⟩
  have one_fits : ¬maxDigits < ['1'].length := by simp [maxDigits]
  let header : HunkHeader := ⟨⟨['1'], none⟩, ⟨digits, none⟩⟩
  have heads : header.Heads ("@@ -1 +".toList ++ digits ++ " @@".toList) := by
    refine ⟨⟨one, by simp [header]⟩, ⟨numeral, by simp [header]⟩, [], ?_⟩
    simp only [header, opening, RangeDigits.text, Option.elim_none, List.append_nil]
  have found : header.overlong? = some digits := by
    rw [HunkHeader.overlong?, HunkHeader.numerals,
      List.find?_cons_of_neg (by simpa [header] using one_fits),
      List.find?_cons_of_pos (by simpa [header] using long)]
  exact ⟨header, heads, found⟩

/-- A hunk header whose new start has one digit too many does no harm above the file header, and is
fatal below it. -/
theorem read_fails_at_new_start :
    let digits := List.replicate (maxDigits + 1) '٣'
    let overlong := "@@ -1 +".toList ++ digits ++ " @@".toList
    let rows := [overlong, "diff --git a/x b/x".toList, "+a".toList, overlong]
    let text := String.ofList (joinLines rows)
    let service : Service :=
      { layers := []
        fetcher := some fun _ => pure text
        notifier := some fun _ _ => pure () }
    let change : Change := { owner := "o", repository := "r", number := 1, head := "h" }
    read text = .error (.reading (maxDigits + 1)) ∧
      service.analyze text = ⟨[], .error (.digits (.reading (maxDigits + 1)))⟩ ∧
      service.handle change = ⟨[.fetch change], .error (.digits (.reading (maxDigits + 1)))⟩ := by
  intro digits overlong rows text service change
  have digits_length : digits.length = maxDigits + 1 := List.length_replicate
  have of_mem_digits : ∀ character ∈ digits, character = '٣' :=
    fun character mem => List.eq_of_mem_replicate mem
  have one_line : ∀ row ∈ rows, IsOneLine row := by
    have digits_one_line : IsOneLine digits :=
      ⟨fun mem => absurd (of_mem_digits _ mem) (by decide),
        fun mem => absurd (of_mem_digits _ mem) (by decide)⟩
    have overlong_one_line : IsOneLine overlong :=
      isOneLine_append_iff.mpr
        ⟨isOneLine_append_iff.mpr ⟨by decide +kernel, digits_one_line⟩, by decide +kernel⟩
    simp only [rows, List.forall_mem_cons, List.not_mem_nil, false_implies, implies_true, and_true]
    exact ⟨overlong_one_line, by decide +kernel, by decide +kernel, overlong_one_line⟩
  have rows_eq : lines text.toList = rows := by
    rw [String.toList_ofList, lines_joinLines_of_isOneLine one_line nofun]
  have is_overlong : IsOverlong overlong digits := by
    refine isOverlong_of_new_start ⟨List.ne_nil_of_length_eq_add_one digits_length, ?_⟩ ?_
    · intro character mem
      rw [of_mem_digits character mem]
      decide
    · rw [digits_length]
      exact Nat.lt_succ_self maxDigits
  have below : AreBelowFileHeader ["+a".toList, overlong] (lines text.toList) := by
    refine ⟨[overlong], "diff --git a/x b/x".toList, rows_eq, ?_, ⟨['x'], ['x']⟩, ?_⟩
    · exact List.forall_mem_singleton.mpr (not_isFileHeader_of_isOverlong is_overlong)
    · exact FileHeader.ofLine?_eq_some_iff.mp rfl
  have fits : ∀ numeral, ¬IsOverlong "+a".toList numeral := by
    rintro numeral ⟨header, heads, -⟩
    exact not_isHunkHeader_of_head?_ne (by decide) ⟨header, heads⟩
  obtain ⟨fails_iff, -, escapes⟩ := read_fails_at_first_overlong_number text
  have fails : read text = .error (.reading (maxDigits + 1)) :=
    (fails_iff _).mpr
      ⟨_, below, digits, .later fits (.here is_overlong []), by rw [digits_length]⟩
  obtain ⟨analyzed, handled⟩ := escapes service _ fails
  exact ⟨fails, analyzed, handled change _ _ rfl rfl rfl⟩

end Diff

end DiffReview
