import DiffReview.Text.Blank
import DiffReview.Text.Lines
import Mathlib.Data.List.DropRight

/-!
# Cutting texts

What the operations of `Text.Lines` do to a text, said without their recursion: where a mark cuts
it, which lines it has, and what becomes of carriage returns.
-/

namespace DiffReview.Text

/-! ## Marks -/

theorem isPrefixOf?_eq_some_iff {α : Type} [BEq α] [LawfulBEq α] {mark text rest : List α} :
    mark.isPrefixOf? text = some rest ↔ text = mark ++ rest := by
  induction mark generalizing text with
  | nil => simp [List.isPrefixOf?, eq_comm]
  | cons head mark induction =>
      cases text with
      | nil => simp [List.isPrefixOf?]
      | cons first text =>
          rw [List.isPrefixOf?]
          by_cases same : head = first
          · simp [same, induction]
          · simp [same, Ne.symm same]

@[simp]
theorem isPrefixOf?_append (mark rest : List Char) : mark.isPrefixOf? (mark ++ rest) = some rest :=
  isPrefixOf?_eq_some_iff.mpr rfl

theorem dropMark_of_head?_ne {first : Char} {mark text : List Char}
    (other : text.head? ≠ some first) : dropMark (first :: mark) text = text := by
  have absent : (first :: mark).isPrefixOf? text = none := by
    refine Option.eq_none_iff_forall_ne_some.mpr fun rest found => other ?_
    rw [isPrefixOf?_eq_some_iff.mp found]
    rfl
  rw [dropMark, absent, Option.getD_none]

/-- A text is cut at the first occurrence of the mark: no occurrence has less before it. -/
theorem cutAt?_eq_some_iff {mark text before after : List Char} :
    cutAt? mark text = some (before, after) ↔
      text = before ++ mark ++ after ∧
        ∀ otherBefore otherAfter, text = otherBefore ++ mark ++ otherAfter →
          before.length ≤ otherBefore.length := by
  induction text generalizing before after with
  | nil =>
      simp only [cutAt?, Option.map_eq_some_iff, isPrefixOf?_eq_some_iff, Prod.mk.injEq]
      constructor
      · rintro ⟨rest, split, rfl, rfl⟩
        exact ⟨split, fun _ _ _ => Nat.zero_le _⟩
      · rintro ⟨split, -⟩
        have empty : before = [] ∧ mark = [] ∧ after = [] := by simpa using split
        obtain ⟨rfl, rfl, rfl⟩ := empty
        exact ⟨[], rfl, rfl, rfl⟩
  | cons first text induction =>
      rw [cutAt?]
      cases found : mark.isPrefixOf? (first :: text) with
      | some rest =>
          rw [isPrefixOf?_eq_some_iff] at found
          simp only [Option.some.injEq, Prod.mk.injEq]
          constructor
          · rintro ⟨rfl, rfl⟩
            exact ⟨found, fun _ _ _ => Nat.zero_le _⟩
          · rintro ⟨split, shortest⟩
            have empty : before = [] := List.length_eq_zero_iff.mp
              (Nat.le_zero.mp (shortest [] rest found))
            subst empty
            exact ⟨rfl, List.append_cancel_left (found.symm.trans split)⟩
      | none =>
          have not_here : ∀ rest, first :: text ≠ mark ++ rest := by
            intro rest split
            simp [isPrefixOf?_eq_some_iff.mpr split] at found
          simp only [Option.map_eq_some_iff, Prod.exists, induction, Prod.mk.injEq]
          constructor
          · rintro ⟨front, back, ⟨split, shortest⟩, rfl, rfl⟩
            refine ⟨by simp [split], ?_⟩
            intro otherBefore otherAfter other_split
            cases otherBefore with
            | nil => exact absurd other_split (not_here otherAfter)
            | cons head otherBefore =>
                obtain ⟨-, tail_split⟩ := List.cons.inj other_split
                exact Nat.succ_le_succ (shortest otherBefore otherAfter tail_split)
          · rintro ⟨split, shortest⟩
            cases before with
            | nil => exact absurd split (not_here after)
            | cons head before =>
                obtain ⟨rfl, tail_split⟩ := List.cons.inj split
                refine ⟨before, after, ⟨tail_split, ?_⟩, rfl, rfl⟩
                intro otherBefore otherAfter other_split
                exact Nat.le_of_succ_le_succ
                  (shortest (first :: otherBefore) otherAfter (by simp [other_split]))

/-! ## Blanks at the end -/

theorem trimEnd_append_of_forall {drop : Char → Bool} {blanks : List Char}
    (all_drop : ∀ character ∈ blanks, drop character = true) (text : List Char) :
    trimEnd drop (text ++ blanks) = trimEnd drop text := by
  rw [trimEnd, List.reverse_append, List.dropWhile_append_of_pos (by simpa using all_drop), trimEnd]

/-- What is trimmed at the end of a text is to be dropped. -/
theorem exists_eq_trimEnd_append (drop : Char → Bool) (text : List Char) :
    ∃ blanks, text = trimEnd drop text ++ blanks ∧
      ∀ character ∈ blanks, drop character = true :=
  ⟨text.rtakeWhile drop, List.rdropWhile_append_rtakeWhile.symm,
    fun _ => List.mem_rtakeWhile_imp⟩

/-! ## Lines -/

theorem joinLines_cons {row : List Char} {rows : List (List Char)} (nonempty : rows ≠ []) :
    joinLines (row :: rows) = row ++ '\n' :: joinLines rows := by
  simp [joinLines, List.intercalate_cons_of_ne_nil nonempty]

theorem joinLines_append {left right : List (List Char)} (left_ne_nil : left ≠ [])
    (right_ne_nil : right ≠ []) :
    joinLines (left ++ right) = joinLines left ++ '\n' :: joinLines right := by
  induction left with
  | nil => contradiction
  | cons row left induction =>
      by_cases last : left = []
      · rw [last, List.cons_append, List.nil_append, joinLines_cons right_ne_nil]
        simp [joinLines]
      · rw [List.cons_append, joinLines_cons (by simp [last]), induction last, joinLines_cons last]
        simp

/-- Blocks of rows that are joined one by one and then with each other are joined at once. -/
theorem joinLines_map_joinLines {blocks : List (List (List Char))}
    (nonempty : ∀ block ∈ blocks, block ≠ []) :
    joinLines (blocks.map joinLines) = joinLines blocks.flatten := by
  induction blocks with
  | nil => rfl
  | cons block blocks induction =>
      rw [List.forall_mem_cons] at nonempty
      cases blocks with
      | nil => simp [joinLines]
      | cons next blocks =>
          have rest_ne_nil : (next :: blocks).flatten ≠ [] := by
            simp [nonempty.2 next List.mem_cons_self]
          rw [List.map_cons, joinLines_cons (by simp), induction nonempty.2]
          exact (joinLines_append nonempty.1 rest_ne_nil).symm

/-- Joining rows adds nothing but line feeds. -/
theorem count_joinLines {character : Char} (other : character ≠ '\n') (rows : List (List Char)) :
    (joinLines rows).count character = rows.flatten.count character := by
  induction rows with
  | nil => rfl
  | cons row rows induction =>
      by_cases nonempty : rows = []
      · simp [nonempty, joinLines]
      · rw [joinLines_cons nonempty]
        simp [induction, Ne.symm other]

theorem joinLines_lines (text : List Char) : joinLines (lines text) = unifyNewlines text :=
  List.intercalate_splitOn '\n'

/-- A row without the carriage return that it may end with. -/
def dropReturn (row : List Char) : List Char :=
  if row.getLast? = some '\r' then row.dropLast else row

theorem dropReturn_cons {character : Char} {row : List Char} (nonempty : row ≠ []) :
    dropReturn (character :: row) = character :: dropReturn row := by
  obtain ⟨next, rest, rfl⟩ := List.exists_cons_of_ne_nil nonempty
  simp only [dropReturn, List.getLast?_cons_cons, List.dropLast_cons_cons]
  split <;> rfl

theorem dropReturn_append {front row : List Char} (nonempty : row ≠ []) :
    dropReturn (front ++ row) = front ++ dropReturn row := by
  induction front with
  | nil => rfl
  | cons character front induction =>
      rw [List.cons_append, dropReturn_cons (by simp [nonempty]), induction, List.cons_append]

theorem dropReturn_eq_self {row : List Char} (clean : row.getLast? ≠ some '\r') :
    dropReturn row = row :=
  if_neg clean

theorem dropReturn_eq_nil_iff {row : List Char} (nonempty : row ≠ []) :
    dropReturn row = [] ↔ row = ['\r'] := by
  constructor
  · intro dropped
    rw [dropReturn] at dropped
    split at dropped
    · rename_i ends
      rw [← List.dropLast_append_getLast? '\r' ends, dropped, List.nil_append]
    · contradiction
  · rintro rfl
    rfl

theorem exists_eq_dropReturn_append (row : List Char) :
    ∃ ending, row = dropReturn row ++ ending := by
  rw [dropReturn]
  split
  · rename_i ends
    exact ⟨['\r'], (List.dropLast_append_getLast? '\r' ends).symm⟩
  · exact ⟨[], (List.append_nil row).symm⟩

theorem head?_of_head?_dropReturn {row : List Char} {character : Char}
    (first : (dropReturn row).head? = some character) : row.head? = some character := by
  obtain ⟨ending, row_eq⟩ := exists_eq_dropReturn_append row
  rw [row_eq, List.head?_append, first]
  rfl

theorem head?_dropReturn_of_ne {row : List Char} {character : Char}
    (first : row.head? = some character) (other : character ≠ '\r') :
    (dropReturn row).head? = some character := by
  obtain ⟨content, rfl⟩ := List.head?_eq_some_iff.mp first
  by_cases empty : content = []
  · subst empty
    rw [dropReturn_eq_self (by simp [other])]
    rfl
  · rw [dropReturn_cons empty]
    rfl

theorem unifyNewlines_cons_of_ne {character : Char} (other : character ≠ '\r')
    (text : List Char) : unifyNewlines (character :: text) = character :: unifyNewlines text := by
  cases text with
  | nil => rfl
  | cons next rest => rw [unifyNewlines, if_neg (fun both => other both.1)]

/-- Before a line feed, a row loses the carriage return at its end. -/
theorem unifyNewlines_append_newline {row : List Char} (one_line : '\n' ∉ row)
    (rest : List Char) :
    unifyNewlines (row ++ '\n' :: rest) = dropReturn row ++ '\n' :: unifyNewlines rest := by
  induction row with
  | nil => exact unifyNewlines_cons_of_ne (by decide) rest
  | cons character row induction =>
      rw [List.mem_cons, not_or] at one_line
      cases row with
      | nil =>
          rw [List.cons_append, List.nil_append, unifyNewlines,
            unifyNewlines_cons_of_ne (by decide) rest]
          by_cases isReturn : character = '\r' <;> simp [isReturn, dropReturn]
      | cons next row =>
          have next_ne : next ≠ '\n' := fun equal => one_line.2 (by simp [equal])
          rw [List.cons_append, List.cons_append, unifyNewlines,
            if_neg (fun both => next_ne both.2), ← List.cons_append, induction one_line.2,
            dropReturn_cons (List.cons_ne_nil next row), List.cons_append]

/-- Without a carriage return before a line feed, a text is kept. -/
theorem unifyNewlines_eq_self {text : List Char} (absent : ¬['\r', '\n'] <:+: text) :
    unifyNewlines text = text := by
  fun_induction unifyNewlines text with
  | case1 => rfl
  | case2 => rfl
  | case3 character next rest both induction =>
      obtain ⟨rfl, rfl⟩ := both
      exact absurd ⟨[], rest, rfl⟩ absent
  | case4 character next rest other induction =>
      rw [induction fun later => absent (List.infix_cons later)]

/-- A carriage return before a line feed is lost. -/
theorem count_unifyNewlines_lt {text : List Char} (present : ['\r', '\n'] <:+: text) :
    (unifyNewlines text).count '\r' < text.count '\r' := by
  have count_le : ∀ text, (unifyNewlines text).count '\r' ≤ text.count '\r' := by
    intro text
    fun_induction unifyNewlines text with
    | case1 => simp
    | case2 => simp
    | case3 character next rest both induction =>
        exact Nat.le_trans induction List.count_le_count_cons
    | case4 character next rest other induction =>
        rw [List.count_cons, List.count_cons]
        omega
  fun_induction unifyNewlines text with
  | case1 => simp at present
  | case2 character => simp [List.infix_cons_iff] at present
  | case3 character next rest both induction =>
      obtain ⟨rfl, rfl⟩ := both
      rw [List.count_cons_self]
      exact Nat.lt_succ_of_le (count_le _)
  | case4 character next rest other induction =>
      rcases List.infix_cons_iff.mp present with here | later
      · obtain ⟨tail, split⟩ := here
        simp only [List.cons_append, List.nil_append, List.cons.injEq] at split
        exact absurd ⟨split.1.symm, split.2.1.symm⟩ other
      · have less := induction later
        rw [List.count_cons, List.count_cons]
        omega

theorem newline_not_mem_of_mem_lines {text row : List Char} (row_mem : row ∈ lines text) :
    '\n' ∉ row := by
  rw [lines] at row_mem
  generalize unifyNewlines text = text at row_mem
  induction text generalizing row with
  | nil =>
      rw [List.splitOn_nil, List.mem_singleton] at row_mem
      simp [row_mem]
  | cons character text induction =>
      rw [List.splitOn_cons_eq_if_modifyHead] at row_mem
      split at row_mem
      · rcases List.mem_cons.mp row_mem with rfl | later
        · exact List.not_mem_nil
        · exact induction later
      · rename_i other
        obtain ⟨first, rest, split_eq⟩ :=
          List.exists_cons_of_ne_nil (List.splitOn_ne_nil '\n' text)
        rw [split_eq] at row_mem induction
        rcases List.mem_cons.mp row_mem with rfl | later
        · rw [List.mem_cons, not_or]
          exact ⟨fun same => other (beq_iff_eq.mpr same.symm), induction List.mem_cons_self⟩
        · exact induction (List.mem_cons_of_mem first later)

theorem lines_append_newline {row : List Char} (one_line : '\n' ∉ row) (rest : List Char) :
    lines (row ++ '\n' :: rest) = dropReturn row :: lines rest := by
  have clean : '\n' ∉ dropReturn row := by
    unfold dropReturn
    split
    · exact fun mem => one_line (List.dropLast_subset row mem)
    · exact one_line
  rw [lines, unifyNewlines_append_newline one_line,
    List.splitOn_append_cons_self_of_not_mem clean, lines]

/-- Rows that were joined come back as they were, unless one of them ends with a carriage return
before a line feed. -/
theorem lines_joinLines {rows : List (List Char)} (one_line : ∀ row ∈ rows, '\n' ∉ row)
    (nonempty : rows ≠ []) (absent : ¬['\r', '\n'] <:+: joinLines rows) :
    lines (joinLines rows) = rows := by
  rw [lines, unifyNewlines_eq_self absent]
  exact List.splitOn_intercalate '\n' one_line nonempty

/-- Rows that were joined come back at least in part; where there were none, an empty one does. -/
theorem exists_mem_of_mem_lines_joinLines {rows : List (List Char)}
    (one_line : ∀ row ∈ rows, '\n' ∉ row) {row : List Char}
    (row_mem : row ∈ lines (joinLines rows)) :
    row = [] ∨ ∃ ending, row ++ ending ∈ rows := by
  induction rows with
  | nil =>
      left
      simpa [joinLines, lines, unifyNewlines] using row_mem
  | cons first rows induction =>
      rw [List.forall_mem_cons] at one_line
      by_cases nonempty : rows = []
      · right
        subst nonempty
        have absent : ¬['\r', '\n'] <:+: joinLines [first] := by
          intro present
          exact one_line.1 (by simpa [joinLines] using present.subset (by simp))
        rw [lines_joinLines (by simpa using one_line.1) (by simp) absent] at row_mem
        exact ⟨[], by simpa using row_mem⟩
      · rw [joinLines_cons nonempty, lines_append_newline one_line.1, List.mem_cons] at row_mem
        rcases row_mem with rfl | later
        · obtain ⟨ending, first_eq⟩ := exists_eq_dropReturn_append first
          exact .inr ⟨ending, by simp [← first_eq]⟩
        · rcases induction one_line.2 later with empty | ⟨ending, mem⟩
          · exact .inl empty
          · exact .inr ⟨ending, List.mem_cons_of_mem first mem⟩

/-! ## Line breaks -/

/-- What ends a line: a line feed, perhaps with a carriage return before it. -/
inductive LineBreak
  | feed
  | returnFeed
deriving DecidableEq, Repr

/-- The characters of a line break. -/
def LineBreak.characters : LineBreak → List Char
  | feed => ['\n']
  | returnFeed => ['\r', '\n']

/-- The rows below each other, where `breaks` tells what stands after each row but the last. -/
def layOut (breaks : Nat → LineBreak) : List (List Char) → List Char
  | [] => []
  | [row] => row
  | row :: next :: rows =>
    row ++ (breaks 0).characters ++ layOut (fun index => breaks (index + 1)) (next :: rows)

/-- A text without any character of a line break. -/
def IsOneLine (text : List Char) : Prop :=
  '\n' ∉ text ∧ '\r' ∉ text

instance (text : List Char) : Decidable (IsOneLine text) :=
  inferInstanceAs (Decidable (_ ∧ _))

theorem isOneLine_append_iff {left right : List Char} :
    IsOneLine (left ++ right) ↔ IsOneLine left ∧ IsOneLine right := by
  simp only [IsOneLine, List.mem_append, not_or]
  exact and_and_and_comm

theorem isOneLine_cons_iff {character : Char} {text : List Char} :
    IsOneLine (character :: text) ↔ IsOneLine [character] ∧ IsOneLine text :=
  @isOneLine_append_iff [character] text

theorem isOneLine_of_mem_lines {text row : List Char} (clean : '\r' ∉ text)
    (row_mem : row ∈ lines text) : IsOneLine row := by
  refine ⟨newline_not_mem_of_mem_lines row_mem, fun return_mem => ?_⟩
  have absent : ¬['\r', '\n'] <:+: text := fun present => clean (present.subset (by simp))
  have returns : 0 < (lines text).flatten.count '\r' :=
    List.count_pos_iff.mpr (List.mem_flatten_of_mem row_mem return_mem)
  rw [← count_joinLines (by decide), joinLines_lines, unifyNewlines_eq_self absent,
    List.count_pos_iff] at returns
  exact clean returns

theorem IsOneLine.getLast?_ne {row : List Char} (one_line : IsOneLine row) :
    row.getLast? ≠ some '\r' :=
  fun ends => one_line.2 (List.mem_of_getLast? ends)

theorem lines_append_break {row : List Char} (one_line : IsOneLine row) (lineBreak : LineBreak)
    (rest : List Char) : lines (row ++ lineBreak.characters ++ rest) = row :: lines rest := by
  cases lineBreak with
  | feed =>
      have kept := lines_append_newline one_line.1 rest
      rw [dropReturn_eq_self one_line.getLast?_ne] at kept
      simpa [LineBreak.characters] using kept
  | returnFeed =>
      have one_feed : '\n' ∉ row ++ ['\r'] := by simp [one_line.1]
      have dropped : dropReturn (row ++ ['\r']) = row := by simp [dropReturn]
      have kept := lines_append_newline one_feed rest
      rw [dropped] at kept
      simpa [LineBreak.characters] using kept

theorem lines_of_isOneLine {row : List Char} (one_line : IsOneLine row) : lines row = [row] := by
  have joined : joinLines [row] = row := by simp [joinLines]
  have absent : ¬['\r', '\n'] <:+: joinLines [row] := by
    rw [joined]
    exact fun present => one_line.1 (present.subset (by simp))
  have kept := lines_joinLines (by simpa using one_line.1) (by simp) absent
  rwa [joined] at kept

/-- Rows that are laid out come back, whatever line breaks are used; a break at the end is followed
by an empty row. -/
theorem lines_layOut {rows : List (List Char)} (one_line : ∀ row ∈ rows, IsOneLine row)
    (nonempty : rows ≠ []) (breaks : Nat → LineBreak) (ending : Option LineBreak) :
    lines (layOut breaks rows ++ ending.elim [] LineBreak.characters) =
      rows ++ ending.elim [] fun _ => [[]] := by
  induction rows generalizing breaks with
  | nil => contradiction
  | cons row rows induction =>
      rw [List.forall_mem_cons] at one_line
      cases rows with
      | nil =>
          cases ending with
          | none => simpa [layOut] using lines_of_isOneLine one_line.1
          | some lineBreak =>
              have kept := lines_append_break one_line.1 lineBreak []
              rwa [List.append_nil] at kept
      | cons next rows =>
          have rest_eq := induction one_line.2 (List.cons_ne_nil next rows)
            fun index => breaks (index + 1)
          rw [layOut, List.append_assoc, lines_append_break one_line.1, rest_eq]
          rfl

/-- The same for any number of rows: where there are none, only empty rows come back. -/
theorem exists_lines_layOut {rows : List (List Char)} (one_line : ∀ row ∈ rows, IsOneLine row)
    (breaks : Nat → LineBreak) (ending : Option LineBreak) :
    ∃ blanks, lines (layOut breaks rows ++ ending.elim [] LineBreak.characters) = rows ++ blanks ∧
      ∀ row ∈ blanks, row = [] := by
  cases rows with
  | nil =>
      cases ending with
      | none => exact ⟨[[]], rfl, by simp⟩
      | some lineBreak =>
          refine ⟨[[], []], ?_, by simp⟩
          cases lineBreak <;> rfl
  | cons row rows =>
      refine ⟨_, lines_layOut one_line (List.cons_ne_nil row rows) breaks ending, ?_⟩
      cases ending <;> simp

/-! ## Texts put together -/

/-- A text that ends where a line ends keeps its lines, whatever text follows; only the empty row at
its end gives way. -/
theorem exists_lines_append {front : List Char}
    (ended : front = [] ∨ front.getLast? = some '\n') :
    ∃ rows, lines front = rows ++ [[]] ∧ ∀ back, lines (front ++ back) = rows ++ lines back := by
  induction length_eq : front.length using Nat.strongRecOn generalizing front with
  | ind length induction =>
      rcases ended with rfl | ended
      · exact ⟨[], rfl, fun back => rfl⟩
      · have feed_mem : '\n' ∈ front := List.mem_of_getLast? ended
        obtain ⟨row, rest, rfl, one_line⟩ := List.eq_append_cons_of_mem feed_mem
        have rest_ended : rest = [] ∨ rest.getLast? = some '\n' := by
          by_cases empty : rest = []
          · exact .inl empty
          · right
            obtain ⟨next, rest, rfl⟩ := List.exists_cons_of_ne_nil empty
            simpa [List.getLast?_append] using ended
        have shorter : rest.length < length := by
          rw [← length_eq]
          simp
          omega
        obtain ⟨rows, rest_eq, follows⟩ := induction rest.length shorter rest_ended rfl
        refine ⟨dropReturn row :: rows, ?_, ?_⟩
        · rw [lines_append_newline one_line, rest_eq, List.cons_append]
        · intro back
          rw [List.append_assoc, List.cons_append, lines_append_newline one_line, follows,
            List.cons_append]

/-- Rows above others come back without the carriage returns at their ends. -/
theorem lines_joinLines_append {above below : List (List Char)}
    (one_line : ∀ row ∈ above, '\n' ∉ row) (nonempty : below ≠ []) :
    lines (joinLines (above ++ below)) = above.map dropReturn ++ lines (joinLines below) := by
  induction above with
  | nil => rfl
  | cons row above induction =>
      rw [List.forall_mem_cons] at one_line
      rw [List.cons_append, joinLines_cons (by simp [nonempty]), lines_append_newline one_line.1,
        induction one_line.2, List.map_cons, List.cons_append]

theorem lines_joinLines_of_isOneLine {rows : List (List Char)}
    (one_line : ∀ row ∈ rows, IsOneLine row) (nonempty : rows ≠ []) :
    lines (joinLines rows) = rows := by
  refine lines_joinLines (fun row mem => (one_line row mem).1) nonempty ?_
  intro present
  have returns : 0 < (joinLines rows).count '\r' :=
    List.count_pos_iff.mpr (present.subset (by simp))
  rw [count_joinLines (by decide), List.count_pos_iff, List.mem_flatten] at returns
  obtain ⟨row, mem, return_mem⟩ := returns
  exact (one_line row mem).2 return_mem

theorem map_dropReturn_of_isOneLine {rows : List (List Char)}
    (one_line : ∀ row ∈ rows, IsOneLine row) : rows.map dropReturn = rows := by
  conv_rhs => rw [← List.map_id rows]
  exact List.map_congr_left fun row mem => dropReturn_eq_self (one_line row mem).getLast?_ne

/-- Rows that are put between others come back in their place, each of them perhaps without a
carriage return at its end. -/
theorem exists_lines_joinLines_insert {above inserted below : List (List Char)}
    (above_lines : ∀ row ∈ above, IsOneLine row) (inserted_lines : ∀ row ∈ inserted, '\n' ∉ row)
    (below_lines : ∀ row ∈ below, IsOneLine row) (nonempty : above ++ below ≠ []) :
    ∃ kept, lines (joinLines (above ++ inserted ++ below)) = above ++ kept ++ below ∧
      ∀ row ∈ kept, ∃ original ∈ inserted, row = original ∨ row = dropReturn original := by
  have above_feeds : ∀ row ∈ above, '\n' ∉ row := fun row mem => (above_lines row mem).1
  have dropped : ∀ rows : List (List Char), (∀ row ∈ rows, row ∈ inserted) →
      ∀ row ∈ rows.map dropReturn,
        ∃ original ∈ inserted, row = original ∨ row = dropReturn original := by
    intro rows within row row_mem
    obtain ⟨original, original_mem, rfl⟩ := List.mem_map.mp row_mem
    exact ⟨original, within original original_mem, .inr rfl⟩
  by_cases last : below = []
  · subst last
    rw [List.append_nil] at nonempty ⊢
    rcases List.eq_nil_or_concat inserted with rfl | ⟨others, final, rfl⟩
    · refine ⟨[], ?_, by simp⟩
      simpa using lines_joinLines_of_isOneLine above_lines nonempty
    · -- What stands at the end of the text keeps its carriage return.
      rw [List.concat_eq_append] at inserted_lines dropped ⊢
      rw [List.forall_mem_append] at inserted_lines
      have final_line : '\n' ∉ final := inserted_lines.2 final List.mem_cons_self
      have final_kept : lines (joinLines [final]) = [final] := by
        refine lines_joinLines (by simpa using final_line) (by simp) fun present => final_line ?_
        simpa [joinLines] using present.subset (by simp)
      refine ⟨others.map dropReturn ++ [final], ?_, ?_⟩
      · rw [← List.append_assoc, lines_joinLines_append
          (List.forall_mem_append.mpr ⟨above_feeds, inserted_lines.1⟩) (by simp), final_kept,
          List.map_append, map_dropReturn_of_isOneLine above_lines]
        simp
      · rw [List.forall_mem_append]
        refine ⟨dropped others fun row mem => List.mem_append_left _ mem, ?_⟩
        intro row row_mem
        exact ⟨row, List.mem_append_right _ row_mem, .inl rfl⟩
  · refine ⟨inserted.map dropReturn, ?_, dropped inserted fun row mem => mem⟩
    rw [lines_joinLines_append (List.forall_mem_append.mpr ⟨above_feeds, inserted_lines⟩) last,
      List.map_append, map_dropReturn_of_isOneLine above_lines,
      lines_joinLines_of_isOneLine below_lines last]

end DiffReview.Text
