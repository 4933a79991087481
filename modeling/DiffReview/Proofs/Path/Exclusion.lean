import DiffReview.Proofs.Pattern.Piece
import DiffReview.Proofs.Text.Field
import DiffReview.Summary

/-!
# Files below directories

Whether a file is left out is decided by patterns that look for the name of a directory anywhere in
its path, or at the name of the file alone.  So a directory put before a path matters only through
the names it is made of: the file is left out as before, or because one of them is the name of a
directory whose files are left out.
-/

namespace DiffReview

open Text (StartsField EndsField equalsFolded)

/-! ## Patterns within names -/

namespace Pattern

/-- The pattern matches nothing but pieces of names, whatever stands around them. -/
def isWithinName : Pattern → Bool
  | .empty => true
  | .one accepts => !accepts '/'
  | .run accepts => !accepts '/'
  | .place _ => false
  | .seq first second => first.isWithinName && second.isWithinName
  | .alt first second => first.isWithinName && second.isWithinName

variable {pattern : Pattern} {before : Option Char} {piece rest : List Char}

theorem slash_not_mem_of_reads (within : pattern.isWithinName = true)
    (reads : pattern.Reads before piece rest) : '/' ∉ piece := by
  induction pattern generalizing before piece rest with
  | empty =>
      obtain rfl : piece = [] := reads
      exact List.not_mem_nil
  | one accepts =>
      obtain ⟨character, accepted, rfl⟩ := reads
      intro mem
      rw [← List.mem_singleton.mp mem] at accepted
      simp [isWithinName, accepted] at within
  | run accepts =>
      intro mem
      simp [isWithinName, reads '/' mem] at within
  | place accepts => contradiction
  | seq first second first_induction second_induction =>
      obtain ⟨left, right, rfl, first_reads, second_reads⟩ := reads
      obtain ⟨first_within, second_within⟩ := Bool.and_eq_true_iff.mp within
      rw [List.mem_append, not_or]
      exact ⟨first_induction first_within first_reads, second_induction second_within second_reads⟩
  | alt first second first_induction second_induction =>
      obtain ⟨first_within, second_within⟩ := Bool.and_eq_true_iff.mp within
      rcases reads with first_reads | second_reads
      · exact first_induction first_within first_reads
      · exact second_induction second_within second_reads

/-- What a pattern within names reads in one place, it reads in every other. -/
theorem Reads.anywhere (within : pattern.isWithinName = true)
    (reads : pattern.Reads before piece rest) (other_before : Option Char)
    (other_rest : List Char) : pattern.Reads other_before piece other_rest := by
  induction pattern generalizing before piece rest other_before other_rest with
  | empty | one | run => exact reads
  | place accepts => contradiction
  | seq first second first_induction second_induction =>
      obtain ⟨left, right, rfl, first_reads, second_reads⟩ := reads
      obtain ⟨first_within, second_within⟩ := Bool.and_eq_true_iff.mp within
      exact ⟨left, right, rfl, first_induction first_within first_reads _ _,
        second_induction second_within second_reads _ _⟩
  | alt first second first_induction second_induction =>
      obtain ⟨first_within, second_within⟩ := Bool.and_eq_true_iff.mp within
      rcases reads with first_reads | second_reads
      · exact .inl (first_induction first_within first_reads _ _)
      · exact .inr (second_induction second_within second_reads _ _)

end Pattern

namespace Path

/-! ## Parts of paths -/

/-- Nothing is left of the path, or one line feed alone. -/
def IsEnd (rest : List Char) : Prop :=
  rest = [] ∨ rest = ['\n']

theorem IsEnd.slash_not_mem {rest : List Char} (is_end : IsEnd rest) : '/' ∉ rest := by
  rcases is_end with rfl | rfl <;> decide

section Reading

variable {pattern : Pattern} {separates : Char → Bool} {before : Option Char}
  {piece rest text : List Char}

theorem reads_partStart_iff :
    (partStart separates).Reads before piece rest ↔
      piece = [] ∧ before = none ∨
        ∃ separator, separates separator = true ∧ piece = [separator] := by
  simp [partStart, Pattern.textStart, Pattern.Reads, Cursor.atStart]

theorem reads_sequence_textEnd_iff :
    (Pattern.sequence [pattern, .textEnd]).Reads before piece rest ↔
      pattern.Reads before piece rest ∧ IsEnd rest := by
  simp [Pattern.reads_sequence_pair, Pattern.textEnd, Pattern.Reads, Cursor.atEnd, IsEnd]

theorem reads_sequence_one_iff {accepts : Char → Bool} :
    (Pattern.sequence [pattern, .one accepts]).Reads before piece rest ↔
      ∃ left character, accepts character = true ∧ piece = left ++ [character] ∧
        pattern.Reads before left (character :: rest) := by
  simp only [Pattern.reads_sequence_pair, Pattern.Reads]
  constructor
  · rintro ⟨left, _, rfl, reads, character, accepted, rfl⟩
    exact ⟨left, character, accepted, rfl, reads⟩
  · rintro ⟨left, character, accepted, rfl, reads⟩
    exact ⟨left, [character], rfl, reads, character, accepted, rfl⟩

/-- What follows the start of a part is found wherever a part can start. -/
theorem occursIn_partStart_iff {others : List Pattern} :
    (Pattern.sequence (partStart separates :: others)).occursIn text = true ↔
      ∃ front piece rest, text = front ++ (piece ++ rest) ∧ StartsField separates front ∧
        (Pattern.sequence others).Reads front.getLast? piece rest := by
  rw [Pattern.occursIn_iff_reads]
  constructor
  · rintro ⟨front, _, rest, rfl, lead, piece, rfl, starts, reads⟩
    rcases reads_partStart_iff.mp starts with ⟨rfl, nothing⟩ | ⟨separator, is_separator, rfl⟩
    · obtain rfl := List.getLast?_eq_none_iff.mp nothing
      exact ⟨[], piece, rest, rfl, Text.startsField_nil, reads⟩
    · refine ⟨front ++ [separator], piece, rest, by simp, Text.startsField_concat is_separator, ?_⟩
      rwa [List.getLast?_concat]
  · rintro ⟨front, piece, rest, rfl, starts, reads⟩
    rcases starts.eq_nil_or_concat with rfl | ⟨others, separator, is_separator, rfl⟩
    · exact ⟨[], piece, rest, rfl, [], piece, rfl, reads_partStart_iff.mpr (.inl ⟨rfl, rfl⟩), reads⟩
    · rw [List.getLast?_concat] at reads
      exact ⟨others, separator :: piece, rest, by simp, [separator], piece, rfl,
        reads_partStart_iff.mpr (.inr ⟨separator, is_separator, rfl⟩), reads⟩

end Reading

/-! ## A directory before a path -/

theorem toList_join (directory path : String) :
    (directory ++ "/" ++ path).toList = directory.toList ++ '/' :: path.toList := by
  simp [String.toList_append]

section Join

variable {pattern : Pattern} {directory path : List Char}

/-- The end of a path below a directory, as far as it has no slash, is the end of the path. -/
theorem exists_eq_append_of_join {front tail : List Char} (no_slash : '/' ∉ tail)
    (split : directory ++ '/' :: path = front ++ tail) :
    ∃ below, front = directory ++ '/' :: below ∧ path = below ++ tail := by
  rcases List.append_eq_append_iff.mp split with ⟨between, front_eq, tail_eq⟩ |
    ⟨between, directory_eq, tail_eq⟩
  · cases between with
    | nil =>
        rw [List.nil_append] at tail_eq
        exact absurd (tail_eq ▸ List.mem_cons_self) no_slash
    | cons slash below =>
        obtain ⟨rfl, path_eq⟩ := List.cons.inj tail_eq
        exact ⟨below, front_eq, path_eq⟩
  · exact absurd (tail_eq ▸ List.mem_append_right _ List.mem_cons_self) no_slash

theorem occursIn_endingIn_iff {text : List Char} :
    (endingIn pattern).occursIn text = true ↔
      ∃ front piece rest, text = front ++ (piece ++ rest) ∧
        pattern.Reads front.getLast? piece rest ∧ IsEnd rest := by
  rw [Pattern.occursIn_iff_reads, endingIn]
  simp only [reads_sequence_textEnd_iff]

theorem occursIn_named_iff {text : List Char} :
    (named pattern).occursIn text = true ↔
      ∃ front piece rest, text = front ++ (piece ++ rest) ∧ StartsField isNameSeparator front ∧
        pattern.Reads front.getLast? piece rest ∧ IsEnd rest := by
  rw [named, occursIn_partStart_iff]
  simp only [reads_sequence_textEnd_iff]

theorem occursIn_belowDirectory_iff {text : List Char} :
    (belowDirectory pattern).occursIn text = true ↔
      ∃ front piece rest, text = front ++ (piece ++ '/' :: rest) ∧
        StartsField isNameSeparator front ∧ pattern.Reads front.getLast? piece ('/' :: rest) := by
  rw [belowDirectory, occursIn_partStart_iff]
  simp only [reads_sequence_one_iff]
  constructor
  · rintro ⟨front, _, rest, rfl, starts, piece, slash, is_slash, rfl, reads⟩
    obtain rfl : slash = '/' := eq_of_beq is_slash
    exact ⟨front, piece, rest, by simp, starts, reads⟩
  · rintro ⟨front, piece, rest, rfl, starts, reads⟩
    exact ⟨front, piece ++ ['/'], rest, by simp, starts, piece, '/', rfl, rfl, reads⟩

theorem occursIn_endingIn_join_iff (within : pattern.isWithinName = true) :
    (endingIn pattern).occursIn (directory ++ '/' :: path) = true ↔
      (endingIn pattern).occursIn path = true := by
  rw [occursIn_endingIn_iff, occursIn_endingIn_iff]
  constructor
  · rintro ⟨front, piece, rest, split, reads, is_end⟩
    have no_slash : '/' ∉ piece ++ rest := by
      rw [List.mem_append, not_or]
      exact ⟨Pattern.slash_not_mem_of_reads within reads, is_end.slash_not_mem⟩
    obtain ⟨below, -, path_eq⟩ := exists_eq_append_of_join no_slash split
    exact ⟨below, piece, rest, path_eq, reads.anywhere within _ _, is_end⟩
  · rintro ⟨below, piece, rest, rfl, reads, is_end⟩
    exact ⟨directory ++ '/' :: below, piece, rest, by simp, reads.anywhere within _ _, is_end⟩

theorem occursIn_named_join_iff (within : pattern.isWithinName = true) :
    (named pattern).occursIn (directory ++ '/' :: path) = true ↔
      (named pattern).occursIn path = true := by
  rw [occursIn_named_iff, occursIn_named_iff]
  constructor
  · rintro ⟨front, piece, rest, split, starts, reads, is_end⟩
    have no_slash : '/' ∉ piece ++ rest := by
      rw [List.mem_append, not_or]
      exact ⟨Pattern.slash_not_mem_of_reads within reads, is_end.slash_not_mem⟩
    obtain ⟨below, rfl, path_eq⟩ := exists_eq_append_of_join no_slash split
    exact ⟨below, piece, rest, path_eq, (Text.startsField_append_cons_iff rfl).mp starts,
      reads.anywhere within _ _, is_end⟩
  · rintro ⟨below, piece, rest, rfl, starts, reads, is_end⟩
    exact ⟨directory ++ '/' :: below, piece, rest, by simp,
      (Text.startsField_append_cons_iff rfl).mpr starts, reads.anywhere within _ _, is_end⟩

/-- The names of a path, between the slashes. -/
def components (path : List Char) : List (List Char) :=
  path.splitOn '/'

theorem mem_components_iff {text component : List Char} :
    component ∈ components text ↔
      ∃ front back, text = front ++ (component ++ back) ∧ StartsField isNameSeparator front ∧
        '/' ∉ component ∧ EndsField isNameSeparator back := by
  have no_slash_iff : '/' ∉ component ↔
      ∀ character ∈ component, isNameSeparator character = false := by
    simp only [isNameSeparator, beq_eq_false_iff_ne]
    exact ⟨fun no_slash _ mem is_slash => no_slash (is_slash ▸ mem),
      fun differs mem => differs '/' mem rfl⟩
  rw [no_slash_iff]
  exact Text.mem_splitOnP_iff

/-- A name before a slash is one of the directory, or it stands behind it. -/
theorem occursIn_belowDirectory_join_iff (within : pattern.isWithinName = true) :
    (belowDirectory pattern).occursIn (directory ++ '/' :: path) = true ↔
      (belowDirectory pattern).occursIn path = true ∨
        ∃ component ∈ components directory, pattern.Reads none component [] := by
  simp only [occursIn_belowDirectory_iff, mem_components_iff]
  constructor
  · rintro ⟨front, piece, rest, split, starts, reads⟩
    have no_slash := Pattern.slash_not_mem_of_reads within reads
    have in_directory : ∀ back, directory = front ++ piece ++ back →
        EndsField isNameSeparator back → ∃ component,
          (∃ front back, directory = front ++ (component ++ back) ∧
            StartsField isNameSeparator front ∧ '/' ∉ component ∧
              EndsField isNameSeparator back) ∧ pattern.Reads none component [] := by
      intro back directory_eq ends
      rw [List.append_assoc] at directory_eq
      exact ⟨piece, ⟨front, back, directory_eq, starts, no_slash, ends⟩,
        reads.anywhere within _ _⟩
    rw [← List.append_assoc] at split
    rcases List.append_eq_append_iff.mp split with ⟨between, front_eq, path_eq⟩ |
      ⟨back, directory_eq, rest_eq⟩
    · cases between with
      | nil =>
          rw [List.append_nil] at front_eq
          exact .inr (in_directory [] (by rw [List.append_nil, front_eq]) Text.endsField_nil)
      | cons slash between =>
          obtain ⟨rfl, behind_eq⟩ := List.cons.inj path_eq
          obtain ⟨below, rfl, rfl⟩ := exists_eq_append_of_join no_slash front_eq.symm
          refine .inl ⟨below, piece, rest, behind_eq.trans (List.append_assoc ..), ?_,
            reads.anywhere within _ _⟩
          exact (Text.startsField_append_cons_iff rfl).mp starts
    · refine .inr (in_directory back directory_eq ?_)
      cases back with
      | nil => exact Text.endsField_nil
      | cons first others =>
          obtain ⟨rfl, -⟩ := List.cons.inj rest_eq
          exact Text.endsField_cons rfl
  · rintro (⟨below, piece, rest, rfl, starts, reads⟩ |
      ⟨component, ⟨front, back, rfl, starts, -, ends⟩, reads⟩)
    · exact ⟨directory ++ '/' :: below, piece, rest, by simp,
        (Text.startsField_append_cons_iff rfl).mpr starts, reads.anywhere within _ _⟩
    · rcases ends.eq_nil_or_cons with rfl | ⟨separator, others, is_separator, rfl⟩
      · exact ⟨front, component, path, by simp, starts, reads.anywhere within _ _⟩
      · obtain rfl : separator = '/' := eq_of_beq is_separator
        exact ⟨front, component, others ++ '/' :: path, by simp, starts,
          reads.anywhere within _ _⟩

end Join

/-! ## Which files are left out -/

/-- The names of the directories whose files are left out. -/
def excludedDirectoryNames : List String :=
  ["__tests__", "test", "tests", "spec", "dist", "build", "out", "target", "coverage",
    "node_modules", "vendor", ".next", ".nuxt", "__snapshots__"]

/-- Disregarding case, the name is that of a directory whose files are left out. -/
def IsExcludedDirectory (name : List Char) : Prop :=
  ∃ excluded ∈ excludedDirectoryNames, equalsFolded excluded.toList name = true

theorem isWithinName_of_mem_excludedDirectories :
    ∀ pattern ∈ excludedDirectories, pattern.isWithinName = true := by
  decide

theorem isWithinName_of_mem_excludedNames :
    ∀ pattern ∈ excludedNames, pattern.isWithinName = true := by
  decide

theorem isWithinName_of_mem_excludedEndings :
    ∀ pattern ∈ excludedEndings, pattern.isWithinName = true := by
  decide

theorem exists_excludedDirectories_reads_iff {before : Option Char} {name rest : List Char} :
    (∃ pattern ∈ excludedDirectories, pattern.Reads before name rest) ↔
      IsExcludedDirectory name := by
  simp [excludedDirectories, Pattern.reads_anyWord, IsExcludedDirectory, excludedDirectoryNames,
    or_assoc]

theorem exists_belowDirectory_join_iff {directory path : List Char} :
    (∃ name ∈ excludedDirectories,
        (belowDirectory name).occursIn (directory ++ '/' :: path) = true) ↔
      (∃ name ∈ excludedDirectories, (belowDirectory name).occursIn path = true) ∨
        ∃ component ∈ components directory, IsExcludedDirectory component := by
  calc
    (∃ name ∈ excludedDirectories,
        (belowDirectory name).occursIn (directory ++ '/' :: path) = true) ↔
        ∃ name ∈ excludedDirectories, (belowDirectory name).occursIn path = true ∨
          ∃ component ∈ components directory, name.Reads none component [] :=
      exists_congr fun name => and_congr_right fun mem =>
        occursIn_belowDirectory_join_iff (isWithinName_of_mem_excludedDirectories name mem)
    _ ↔ (∃ name ∈ excludedDirectories, (belowDirectory name).occursIn path = true) ∨
          ∃ component ∈ components directory,
            ∃ name ∈ excludedDirectories, name.Reads none component [] := by
      simp only [and_or_left, exists_or]
      refine or_congr_right ⟨?_, ?_⟩
      · rintro ⟨name, name_mem, component, mem, reads⟩
        exact ⟨component, mem, name, name_mem, reads⟩
      · rintro ⟨component, mem, name, name_mem, reads⟩
        exact ⟨name, name_mem, component, mem, reads⟩
    _ ↔ (∃ name ∈ excludedDirectories, (belowDirectory name).occursIn path = true) ∨
          ∃ component ∈ components directory, IsExcludedDirectory component := by
      simp only [exists_excludedDirectories_reads_iff]

theorem isExcluded_eq_true_iff {path : String} :
    isExcluded path = true ↔
      (∃ name ∈ excludedDirectories, (belowDirectory name).occursIn path.toList = true) ∨
        (∃ name ∈ excludedNames, (named name).occursIn path.toList = true) ∨
          ∃ ending ∈ excludedEndings, (endingIn ending).occursIn path.toList = true := by
  simp [isExcluded, excludedPaths]

theorem isExcluded_join_eq_true_iff {directory path : String} :
    isExcluded (directory ++ "/" ++ path) = true ↔
      isExcluded path = true ∨
        ∃ component ∈ components directory.toList, IsExcludedDirectory component := by
  have names_iff :
      (∃ name ∈ excludedNames,
          (named name).occursIn (directory.toList ++ '/' :: path.toList) = true) ↔
        ∃ name ∈ excludedNames, (named name).occursIn path.toList = true :=
    exists_congr fun name => and_congr_right fun mem =>
      occursIn_named_join_iff (isWithinName_of_mem_excludedNames name mem)
  have endings_iff :
      (∃ ending ∈ excludedEndings,
          (endingIn ending).occursIn (directory.toList ++ '/' :: path.toList) = true) ↔
        ∃ ending ∈ excludedEndings, (endingIn ending).occursIn path.toList = true :=
    exists_congr fun ending => and_congr_right fun mem =>
      occursIn_endingIn_join_iff (isWithinName_of_mem_excludedEndings ending mem)
  rw [isExcluded_eq_true_iff, isExcluded_eq_true_iff, toList_join, exists_belowDirectory_join_iff,
    names_iff, endings_iff, or_right_comm]

end Path

namespace FileDiff

/-- The file in some directory instead of where it is. -/
def movedInto (directory : String) (file : FileDiff) : FileDiff :=
  { file with filename := directory ++ "/" ++ file.filename }

theorem isReviewable_eq_true_iff {file : FileDiff} :
    file.isReviewable = true ↔
      (file.status ≠ .deleted ∧ 0 < file.additions) ∧ ¬Path.isExcluded file.filename = true := by
  simp [isReviewable]

end FileDiff

/-- A file below a directory is left out if it is left out by itself, or because of a name that the
directory is made of; so no other directory changes whether it is reviewed, and below such a
directory none is. -/
theorem Path.isExcluded_join (directory : String) :
    (∀ path, isExcluded (directory ++ "/" ++ path) = true ↔
        isExcluded path = true ∨
          ∃ component ∈ components directory.toList, IsExcludedDirectory component) ∧
      ∀ file : FileDiff, (file.movedInto directory).isReviewable = true ↔
        file.isReviewable = true ∧
          ∀ component ∈ components directory.toList, ¬IsExcludedDirectory component := by
  refine ⟨fun path => isExcluded_join_eq_true_iff, fun file => ?_⟩
  have moved_iff : (file.movedInto directory).isReviewable = true ↔
      (file.status ≠ .deleted ∧ 0 < file.additions) ∧
        ¬isExcluded (directory ++ "/" ++ file.filename) = true :=
    FileDiff.isReviewable_eq_true_iff
  rw [moved_iff, FileDiff.isReviewable_eq_true_iff, isExcluded_join_eq_true_iff, not_or,
    ← and_assoc]
  simp only [not_exists, not_and]

end DiffReview
