import DiffReview.Diff.Header
import DiffReview.Proofs.Text.Lines

/-!
# What header lines look like

Each reader of a header line is tied to the lines that it accepts: a file header is read so that the
old path is as short as possible, a hunk header consists of two ranges and any text after them, and
a marker names the null device, with or without the letter of its side and with blanks after it.
-/

namespace DiffReview

open Text

/-! ## File headers -/

namespace FileHeader

/-- A line names the two paths of a header, neither of which is empty. -/
structure IsSpelled (header : FileHeader) (line : List Char) : Prop where
  /-- There is an old path. -/
  old_ne_nil : header.oldPath ≠ []
  /-- There is a new path. -/
  new_ne_nil : header.newPath ≠ []
  /-- The line holds the two paths, each with the letter of its side. -/
  line_eq : line = "diff --git a/".toList ++ header.oldPath ++ " b/".toList ++ header.newPath

/-- A line is a file header: of all the ways to read its paths, this one has the shortest old
path. -/
structure Heads (header : FileHeader) (line : List Char) : Prop where
  /-- The line names the paths. -/
  spelled : header.IsSpelled line
  /-- No other reading has a shorter old path. -/
  shortest : ∀ other : FileHeader, other.IsSpelled line →
    header.oldPath.length ≤ other.oldPath.length

theorem ofLine?_eq_some_iff {line : List Char} {header : FileHeader} :
    ofLine? line = some header ↔ header.Heads line := by
  constructor
  · intro read
    simp only [ofLine?, Option.bind_eq_bind, Option.bind_eq_some_iff] at read
    obtain ⟨paths, line_eq, read⟩ := read
    rw [isPrefixOf?_eq_some_iff] at line_eq
    cases paths with
    | nil => contradiction
    | cons first rest =>
        obtain ⟨⟨old, new⟩, cut, read⟩ := Option.bind_eq_some_iff.mp read
        obtain ⟨rest_eq, shortest⟩ := cutAt?_eq_some_iff.mp cut
        split at read
        · contradiction
        · rename_i new_ne_nil
          obtain rfl := Option.some.inj read
          refine ⟨⟨by simp, by simpa using new_ne_nil, by simp [line_eq, rest_eq]⟩, ?_⟩
          rintro ⟨otherOld, otherNew⟩ ⟨other_ne_nil, -, other_eq⟩
          obtain ⟨head, otherOld, rfl⟩ := List.exists_cons_of_ne_nil other_ne_nil
          rw [line_eq] at other_eq
          simp only [List.append_assoc, List.append_cancel_left_eq, List.cons_append,
            List.cons.injEq] at other_eq
          exact Nat.succ_le_succ (shortest otherOld otherNew (by simp [other_eq.2]))
  · rintro ⟨⟨old_ne_nil, new_ne_nil, line_eq⟩, shortest⟩
    obtain ⟨oldPath, new⟩ := header
    obtain ⟨first, old, rfl⟩ := List.exists_cons_of_ne_nil old_ne_nil
    have cut : cutAt? " b/".toList (old ++ " b/".toList ++ new) = some (old, new) := by
      refine cutAt?_eq_some_iff.mpr ⟨rfl, ?_⟩
      intro otherOld otherNew other_eq
      -- A cut with nothing behind it lies at the end, where the new path has been left out.
      by_cases other_nil : otherNew = []
      · have lengths := congrArg List.length other_eq
        simp [other_nil] at lengths
        omega
      · have spelled : IsSpelled ⟨first :: otherOld, otherNew⟩ line := by
          refine ⟨by simp, other_nil, ?_⟩
          simp only [line_eq, List.append_assoc, List.cons_append] at other_eq ⊢
          rw [other_eq]
        exact Nat.le_of_succ_le_succ (shortest _ spelled)
    have line_eq' : line =
        "diff --git a/".toList ++ (first :: (old ++ " b/".toList ++ new)) := by
      simp [line_eq]
    rw [ofLine?, line_eq', isPrefixOf?_append]
    simp only [Option.bind_eq_bind, Option.bind_some, cut]
    rw [if_neg (by simpa using new_ne_nil)]

theorem Heads.unique {line : List Char} {left right : FileHeader} (left_heads : left.Heads line)
    (right_heads : right.Heads line) : left = right := by
  rw [← ofLine?_eq_some_iff] at left_heads right_heads
  exact Option.some.inj (left_heads.symm.trans right_heads)

/-- Characters after a file header belong to its new path. -/
theorem Heads.append {header : FileHeader} {line : List Char} (heads : header.Heads line)
    (ending : List Char) :
    Heads ⟨header.oldPath, header.newPath ++ ending⟩ (line ++ ending) := by
  obtain ⟨⟨old_ne_nil, new_ne_nil, line_eq⟩, shortest⟩ := heads
  refine ⟨⟨old_ne_nil, by simp [new_ne_nil], by simp [line_eq]⟩, ?_⟩
  rintro ⟨otherOld, otherNew⟩ ⟨other_ne_nil, -, other_eq⟩
  by_contra shorter
  rw [Nat.not_le] at shorter
  -- The other reading has its mark early enough to be one of the line without the ending.
  have within : "diff --git a/".toList ++ otherOld ++ " b/".toList <+: line := by
    refine List.prefix_of_prefix_length_le ⟨otherNew, other_eq.symm⟩ ⟨ending, rfl⟩ ?_
    simp [line_eq] at shorter ⊢
    omega
  obtain ⟨rest, rest_eq⟩ := within
  have rest_ne_nil : rest ≠ [] := by
    rintro rfl
    have lengths := congrArg List.length (rest_eq.trans line_eq)
    simp at lengths shorter
    omega
  have least := shortest ⟨otherOld, rest⟩ ⟨other_ne_nil, rest_ne_nil, rest_eq.symm⟩
  exact absurd least (Nat.not_le.mpr shorter)

theorem Heads.of_append {old new line ending : List Char}
    (heads : Heads ⟨old, new ++ ending⟩ (line ++ ending)) (nonempty : new ≠ []) :
    Heads ⟨old, new⟩ line := by
  obtain ⟨⟨old_ne_nil, -, line_eq⟩, shortest⟩ := heads
  refine ⟨⟨old_ne_nil, nonempty, ?_⟩, ?_⟩
  · simpa only [← List.append_assoc, List.append_cancel_right_eq] using line_eq
  · rintro ⟨otherOld, otherNew⟩ ⟨other_ne_nil, otherNew_ne_nil, other_eq⟩
    refine shortest ⟨otherOld, otherNew ++ ending⟩ ⟨other_ne_nil, by simp [otherNew_ne_nil], ?_⟩
    simp [other_eq]

end FileHeader

/-- A line is the header of a file. -/
def IsFileHeader (line : List Char) : Prop :=
  ∃ header : FileHeader, header.Heads line

theorem FileHeader.ofLine?_eq_none_iff {line : List Char} :
    ofLine? line = none ↔ ¬IsFileHeader line := by
  rw [Option.eq_none_iff_forall_ne_some]
  simp [IsFileHeader, ofLine?_eq_some_iff]

theorem not_isFileHeader_of_head?_ne {line : List Char} (other : line.head? ≠ some 'd') :
    ¬IsFileHeader line := by
  rintro ⟨_, ⟨-, -, rfl⟩, -⟩
  exact other rfl

theorem not_isFileHeader_nil : ¬IsFileHeader [] := by
  rintro ⟨_, ⟨-, -, line_eq⟩, -⟩
  simp at line_eq

theorem IsFileHeader.append {line : List Char} (isHeader : IsFileHeader line)
    (ending : List Char) : IsFileHeader (line ++ ending) := by
  obtain ⟨header, heads⟩ := isHeader
  exact ⟨_, heads.append ending⟩

/-- Without its whole new path, a file header is none. -/
theorem not_isFileHeader_of_heads_append {old line ending : List Char}
    (heads : FileHeader.Heads ⟨old, ending⟩ (line ++ ending)) : ¬IsFileHeader line := by
  rintro ⟨other, other_heads⟩
  have same := heads.unique (other_heads.append ending)
  have empty : other.newPath = [] := by simpa using congrArg FileHeader.newPath same
  exact other_heads.spelled.new_ne_nil empty

/-! ## Hunk headers -/

/-- A number that is written out: there are characters, and all are digits. -/
def IsNumeral (text : List Char) : Prop :=
  text ≠ [] ∧ ∀ character ∈ text, isDigit character = true

namespace RangeDigits

/-- The range as a hunk header shows it. -/
def text (range : RangeDigits) : List Char :=
  range.start ++ range.count.elim [] (',' :: ·)

/-- A range whose numbers are written out. -/
structure IsWritten (range : RangeDigits) : Prop where
  /-- The first line number is written out. -/
  start : IsNumeral range.start
  /-- The line count is written out where it is given. -/
  count : ∀ count ∈ range.count, IsNumeral count

theorem isWritten_of_read? {line rest : List Char} {range : RangeDigits}
    (read : read? line = some (range, rest)) : range.IsWritten ∧ line = range.text ++ rest := by
  have digits_of_mem : ∀ {part : List Char}, ∀ character ∈ part.takeWhile isDigit,
      isDigit character = true := fun {_} _ => List.mem_takeWhile_imp
  rw [read?] at read
  split at read
  · contradiction
  rename_i start_nonempty
  replace start_nonempty : line.takeWhile isDigit ≠ [] := by simpa using start_nonempty
  have line_eq := List.takeWhile_append_dropWhile (p := isDigit) (l := line)
  split at read
  · rename_i tail tail_eq
    rw [tail_eq] at line_eq
    have tail_split := List.takeWhile_append_dropWhile (p := isDigit) (l := tail)
    simp only at read
    split at read
    · obtain ⟨rfl, rfl⟩ := Prod.mk.inj (Option.some.inj read)
      exact ⟨⟨⟨start_nonempty, digits_of_mem⟩, by simp⟩, by simp [text, line_eq]⟩
    · rename_i count_nonempty
      obtain ⟨rfl, rfl⟩ := Prod.mk.inj (Option.some.inj read)
      refine ⟨⟨⟨start_nonempty, digits_of_mem⟩, ?_⟩, by simp [text, line_eq]⟩
      rintro count ⟨rfl⟩
      exact ⟨by simpa using count_nonempty, digits_of_mem⟩
  · obtain ⟨rfl, rfl⟩ := Prod.mk.inj (Option.some.inj read)
    exact ⟨⟨⟨start_nonempty, digits_of_mem⟩, by simp⟩, by simp [text, line_eq]⟩

private theorem takeWhile_numeral {digits rest : List Char} (numeral : IsNumeral digits)
    (stop : ∀ character ∈ rest.head?, isDigit character = false) :
    (digits ++ rest).takeWhile isDigit = digits ∧ (digits ++ rest).dropWhile isDigit = rest := by
  rw [List.takeWhile_append_of_pos numeral.2, List.dropWhile_append_of_pos numeral.2]
  cases rest with
  | nil => simp
  | cons first rest =>
      have first_stops := stop first rfl
      simp [first_stops]

/-- A written range before a space is read whole. -/
theorem read?_text_append {range : RangeDigits} (written : range.IsWritten) (rest : List Char) :
    read? (range.text ++ ' ' :: rest) = some (range, ' ' :: rest) := by
  obtain ⟨start, count⟩ := range
  obtain ⟨start_numeral, count_numeral⟩ := written
  have space_stops : ∀ character ∈ (' ' :: rest).head?, isDigit character = false := by
    rintro character ⟨rfl⟩
    decide
  have comma_stops : ∀ tail : List Char, ∀ character ∈ (',' :: tail).head?,
      isDigit character = false := by
    rintro tail character ⟨rfl⟩
    decide
  have start_nonempty : start.isEmpty = false := by simpa using start_numeral.1
  cases count with
  | none =>
      obtain ⟨taken, dropped⟩ := takeWhile_numeral start_numeral space_stops
      simp [read?, text, taken, dropped, start_nonempty]
  | some count =>
      have numeral := count_numeral count rfl
      have count_nonempty : count.isEmpty = false := by simpa using numeral.1
      obtain ⟨taken, dropped⟩ :=
        takeWhile_numeral start_numeral (comma_stops (count ++ ' ' :: rest))
      obtain ⟨count_taken, count_dropped⟩ := takeWhile_numeral numeral space_stops
      simp [read?, text, taken, dropped, count_taken, count_dropped, start_nonempty,
        count_nonempty]

end RangeDigits

namespace HunkHeader

/-- A line is the header of a hunk: two ranges between the marks, and any text after them. -/
structure Heads (header : HunkHeader) (line : List Char) : Prop where
  /-- The old range is written out. -/
  old : header.old.IsWritten
  /-- The new range is written out. -/
  new : header.new.IsWritten
  /-- The line holds the two ranges. -/
  line_eq : ∃ suffix, line =
    "@@ -".toList ++ header.old.text ++ " +".toList ++ header.new.text ++ " @@".toList ++ suffix

theorem ofLine?_eq_some_iff {line : List Char} {header : HunkHeader} :
    ofLine? line = some header ↔ header.Heads line := by
  constructor
  · intro read
    simp only [ofLine?, Option.bind_eq_bind, Option.bind_eq_some_iff, Prod.exists,
      isPrefixOf?_eq_some_iff] at read
    obtain ⟨_, line_eq, old, _, old_read, _, rfl, new, _, new_read, suffix, rfl, read⟩ := read
    obtain rfl := Option.some.inj read
    obtain ⟨old_written, rfl⟩ := RangeDigits.isWritten_of_read? old_read
    obtain ⟨new_written, rfl⟩ := RangeDigits.isWritten_of_read? new_read
    exact ⟨old_written, new_written, suffix, by simp [line_eq]⟩
  · rintro ⟨old_written, new_written, suffix, line_eq⟩
    have line_eq' : line = "@@ -".toList ++ (header.old.text ++ ' ' :: ("+".toList ++
        (header.new.text ++ ' ' :: ("@@".toList ++ suffix)))) := by
      simp [line_eq]
    have plus : " +".toList.isPrefixOf? (' ' :: ("+".toList ++
        (header.new.text ++ ' ' :: ("@@".toList ++ suffix)))) =
          some (header.new.text ++ ' ' :: ("@@".toList ++ suffix)) :=
      isPrefixOf?_append " +".toList _
    have marks : " @@".toList.isPrefixOf? (' ' :: ("@@".toList ++ suffix)) = some suffix :=
      isPrefixOf?_append " @@".toList _
    rw [ofLine?, line_eq', isPrefixOf?_append]
    simp only [Option.bind_eq_bind, Option.bind_some, RangeDigits.read?_text_append old_written,
      RangeDigits.read?_text_append new_written, plus, marks]

theorem Heads.unique {line : List Char} {left right : HunkHeader} (left_heads : left.Heads line)
    (right_heads : right.Heads line) : left = right := by
  rw [← ofLine?_eq_some_iff] at left_heads right_heads
  exact Option.some.inj (left_heads.symm.trans right_heads)

theorem Heads.append {header : HunkHeader} {line : List Char} (heads : header.Heads line)
    (ending : List Char) : header.Heads (line ++ ending) := by
  obtain ⟨old_written, new_written, suffix, rfl⟩ := heads
  exact ⟨old_written, new_written, suffix ++ ending, by simp⟩

end HunkHeader

/-- A line is the header of a hunk. -/
def IsHunkHeader (line : List Char) : Prop :=
  ∃ header : HunkHeader, header.Heads line

theorem HunkHeader.ofLine?_eq_none_iff {line : List Char} :
    ofLine? line = none ↔ ¬IsHunkHeader line := by
  rw [Option.eq_none_iff_forall_ne_some]
  simp [IsHunkHeader, ofLine?_eq_some_iff]

theorem not_isHunkHeader_of_head?_ne {line : List Char} (other : line.head? ≠ some '@') :
    ¬IsHunkHeader line := by
  rintro ⟨_, -, -, _, rfl⟩
  exact other rfl

theorem not_isHunkHeader_nil : ¬IsHunkHeader [] := by
  rintro ⟨_, -, -, _, line_eq⟩
  simp at line_eq

theorem not_isHunkHeader_of_isFileHeader {line : List Char} (isHeader : IsFileHeader line) :
    ¬IsHunkHeader line := by
  obtain ⟨_, ⟨-, -, line_eq⟩, -⟩ := isHeader
  rintro ⟨_, -, -, _, line_eq'⟩
  simp [line_eq] at line_eq'

/-! ## Markers -/

namespace Side

/-- A line is a marker of the side that names the null device, after an optional letter and before
blanks. -/
def NamesNothing (side : Side) (line : List Char) : Prop :=
  ∃ letter blanks, (letter = [] ∨ letter = side.letter) ∧
    (∀ character ∈ blanks, isBlank character = true) ∧
      line = side.marker ++ letter ++ "/dev/null".toList ++ blanks

theorem isAbsent_eq_true_iff {side : Side} {line : List Char} :
    side.isAbsent line = true ↔ side.NamesNothing line := by
  have trimmed : ∀ blanks, (∀ character ∈ blanks, isBlank character = true) →
      trimEnd isBlank ("/dev/null".toList ++ blanks) = "/dev/null".toList := by
    intro blanks all_blank
    rw [trimEnd_append_of_forall all_blank]
    decide
  constructor
  · intro absent
    rw [isAbsent] at absent
    split at absent
    · rename_i path found
      rw [isPrefixOf?_eq_some_iff] at found
      obtain ⟨blanks, path_eq, all_blank⟩ :=
        exists_eq_trimEnd_append isBlank (dropMark side.letter path)
      rw [eq_of_beq absent] at path_eq
      rw [dropMark] at path_eq
      cases letter_found : side.letter.isPrefixOf? path with
      | none =>
          rw [letter_found, Option.getD_none] at path_eq
          exact ⟨[], blanks, .inl rfl, all_blank, by simp [found, path_eq]⟩
      | some rest =>
          rw [letter_found, Option.getD_some] at path_eq
          rw [isPrefixOf?_eq_some_iff] at letter_found
          exact ⟨side.letter, blanks, .inr rfl, all_blank, by simp [found, letter_found, path_eq]⟩
    · contradiction
  · rintro ⟨letter, blanks, letter_eq, all_blank, rfl⟩
    have dropped : dropMark side.letter (letter ++ ("/dev/null".toList ++ blanks)) =
        "/dev/null".toList ++ blanks := by
      rcases letter_eq with rfl | rfl
      · cases side <;> rfl
      · rw [dropMark, isPrefixOf?_append, Option.getD_some]
    rw [isAbsent, List.append_assoc, List.append_assoc, isPrefixOf?_append]
    simp only [dropped, trimmed blanks all_blank, beq_self_eq_true]

instance (side : Side) (line : List Char) : Decidable (side.NamesNothing line) :=
  decidable_of_iff _ isAbsent_eq_true_iff

end Side

end DiffReview
