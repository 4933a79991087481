import DiffReview.Summary
import DiffReview.Proofs.Summary.Separated
import DiffReview.Proofs.Text.Decimal
import Mathlib.Data.List.DropRight

/-!
# Layouts

Sections that are laid out come to one list of rows, with a blank one between any two of them, and
this list is cut: its first rows are kept, without a blank one at the end, and a notice tells how
many rows that are not blank stand behind them.
-/

namespace DiffReview.Summary

open Text

/-! ## Cutting rows -/

/-- The rows that are not blank. -/
def nonblank (rows : List String) : List String :=
  rows.filter fun row => !row.isEmpty

/-- The first rows, without a blank one at the end. -/
def keptRows (count : Nat) (rows : List String) : List String :=
  if (rows.take count).getLast? = some "" then (rows.take count).dropLast else rows.take count

/-- How many rows that are not blank stand behind the first ones. -/
def countOmitted (count : Nat) (rows : List String) : Nat :=
  (nonblank (rows.drop count)).length

/-- The notice with its numbers. -/
def notice (omitted : Nat) (maxLines : Int) : String :=
  noticeText (String.ofList (Nat.toDigits 10 omitted)) (String.ofList (signedDigits maxLines))

/-- The first rows, and a notice if others that are not blank stand behind them. -/
def cutRows (maxLines : Int) (rows : List String) : List String :=
  keptRows maxLines.toNat rows ++
    if countOmitted maxLines.toNat rows = 0 then []
    else [notice (countOmitted maxLines.toNat rows) maxLines]

/-- If a notice is due, its numbers can be written. -/
def IsCutWritable (maxLines : Int) (rows : List String) : Prop :=
  countOmitted maxLines.toNat rows ≠ 0 →
    countOmitted maxLines.toNat rows < Nat.pow 10 maxDigits ∧
      maxLines.natAbs < Nat.pow 10 maxDigits

theorem head?_notice (omitted : Nat) (maxLines : Int) :
    (notice omitted maxLines).toList.head? = some '[' := by
  unfold notice noticeText
  simp only [String.toList_append]
  rfl

theorem nonblank_append (left right : List String) :
    nonblank (left ++ right) = nonblank left ++ nonblank right :=
  List.filter_append left right

theorem nonblank_eq_self {rows : List String} (none_blank : "" ∉ rows) : nonblank rows = rows := by
  rw [nonblank, List.filter_eq_self]
  intro row row_mem
  have not_blank : row ≠ "" := ne_of_mem_of_not_mem row_mem none_blank
  simpa using not_blank

theorem nonblank_intercalate {parts : List (List String)} (separable : AreSeparable "" parts) :
    nonblank ([""].intercalate parts) = parts.flatten := by
  rw [← separable.filter_intercalate, nonblank]
  refine List.filter_congr fun row _ => ?_
  rw [Bool.eq_iff_iff]
  simp

theorem countOmitted_append {count : Nat} {left : List String} (full : count ≤ left.length)
    (right : List String) :
    countOmitted count (left ++ right) = countOmitted count left + (nonblank right).length := by
  rw [countOmitted, List.drop_append_of_le_length full, nonblank_append, List.length_append]
  rfl

/-- Rows left out stand behind the first ones. -/
theorem lt_length_of_countOmitted_pos {count : Nat} {rows : List String}
    (some_omitted : 0 < countOmitted count rows) : count < rows.length := by
  by_contra short
  rw [countOmitted, List.drop_eq_nil_of_le (Nat.not_lt.mp short)] at some_omitted
  contradiction

theorem keptRows_prefix_rows (count : Nat) (rows : List String) : keptRows count rows <+: rows := by
  unfold keptRows
  split
  · exact (List.dropLast_prefix _).trans (List.take_prefix _ _)
  · exact List.take_prefix _ _

theorem length_keptRows_le (count : Nat) (rows : List String) :
    (keptRows count rows).length ≤ count := by
  have first_le : (rows.take count).length ≤ count := List.length_take_le _ _
  unfold keptRows
  split
  · exact (List.dropLast_prefix _).length_le.trans first_le
  · exact first_le

theorem nonblank_keptRows (count : Nat) (rows : List String) :
    nonblank (keptRows count rows) = nonblank (rows.take count) := by
  unfold keptRows
  split
  · rename_i ends_blank
    conv =>
      rhs
      rw [← List.dropLast_append_getLast? "" ends_blank]
    rw [nonblank_append]
    exact (List.append_nil _).symm
  · rfl

theorem length_cutRows_le (maxLines : Int) (rows : List String) :
    (cutRows maxLines rows).length ≤ maxLines.toNat + 1 := by
  have kept_le := length_keptRows_le maxLines.toNat rows
  unfold cutRows
  split <;> simp <;> omega

theorem nonblank_notice (omitted : Nat) (maxLines : Int) :
    nonblank [notice omitted maxLines] = [notice omitted maxLines] := by
  apply nonblank_eq_self
  intro blank
  have opening := head?_notice omitted maxLines
  rw [← List.mem_singleton.mp blank] at opening
  contradiction

theorem nonblank_cutRows (maxLines : Int) (rows : List String) :
    nonblank (cutRows maxLines rows) = nonblank (rows.take maxLines.toNat) ++
      if countOmitted maxLines.toNat rows = 0 then []
      else [notice (countOmitted maxLines.toNat rows) maxLines] := by
  rw [cutRows, nonblank_append, nonblank_keptRows]
  split
  · rfl
  · rw [nonblank_notice]

/-- If no row is left out, all that are not blank are among the first ones. -/
theorem nonblank_take_eq {count : Nat} {rows : List String}
    (none_omitted : countOmitted count rows = 0) : nonblank (rows.take count) = nonblank rows := by
  have none_behind : nonblank (rows.drop count) = [] := List.eq_nil_of_length_eq_zero none_omitted
  conv =>
    rhs
    rw [← List.take_append_drop count rows]
  rw [nonblank_append, none_behind, List.append_nil]

/-- A row is kept, or else it is the notice. -/
theorem mem_or_eq_of_mem_cutRows {maxLines : Int} {rows : List String} {row : String}
    (row_mem : row ∈ cutRows maxLines rows) :
    row ∈ rows ∨ ∃ omitted, row = notice omitted maxLines := by
  rcases List.mem_append.mp row_mem with kept | in_notice
  · exact .inl ((keptRows_prefix_rows _ _).mem kept)
  · split at in_notice
    · contradiction
    · exact .inr ⟨_, List.mem_singleton.mp in_notice⟩

theorem cutRows_eq_self {maxLines : Int} {parts : List (List String)}
    (separable : AreSeparable "" parts)
    (fits : (([""].intercalate parts).length : Int) ≤ maxLines) :
    cutRows maxLines ([""].intercalate parts) = [""].intercalate parts := by
  have short : ([""].intercalate parts).length ≤ maxLines.toNat := by omega
  have none_omitted : countOmitted maxLines.toNat ([""].intercalate parts) = 0 := by
    rw [countOmitted, List.drop_eq_nil_of_le short]
    rfl
  have all_kept : keptRows maxLines.toNat ([""].intercalate parts) = [""].intercalate parts := by
    rw [keptRows, List.take_of_length_le short, if_neg separable.getLast?_intercalate_ne]
  rw [cutRows, none_omitted, all_kept, if_pos rfl, List.append_nil]

/-! ## Blank rows at the end -/

theorem rdropWhile_append_blank (rows : List String) {blank : List String}
    (all_blank : ∀ row ∈ blank, row.isEmpty = true) :
    (rows ++ blank).rdropWhile String.isEmpty = rows.rdropWhile String.isEmpty := by
  rw [List.rdropWhile, List.reverse_append,
    List.dropWhile_append_of_pos fun row row_mem => all_blank row (List.mem_reverse.mp row_mem)]
  rfl

/-- Where blank rows are apart from each other, there is at most one of them at the end. -/
theorem keptRows_eq_rdropWhile {rows : List String}
    (apart : rows.IsChain fun upper lower => upper ≠ "" ∨ lower ≠ "") (count : Nat) :
    keptRows count rows = (rows.take count).rdropWhile String.isEmpty := by
  have apart_first := apart.take count
  rw [keptRows]
  generalize rows.take count = first at apart_first
  rcases List.eq_nil_or_concat' first with rfl | ⟨above, last, rfl⟩
  · rfl
  rw [List.getLast?_concat, List.dropLast_concat]
  by_cases ends_blank : last = ""
  · have stops : above.rdropWhile String.isEmpty = above := by
      rw [List.rdropWhile_eq_self_iff]
      intro nonempty blank
      have last_above := List.getLast?_eq_some_getLast nonempty
      rcases (List.isChain_append.mp apart_first).2.2 _ last_above last rfl with other | other
      · exact other (String.isEmpty_iff.mp blank)
      · exact other ends_blank
    rw [if_pos (congrArg some ends_blank), rdropWhile_append_blank above (by simp [ends_blank]),
      stops]
  · rw [if_neg (by simpa using ends_blank),
      List.rdropWhile_concat_neg _ _ _ (by simpa using ends_blank)]

/-! ## Layouts cut rows -/

/-- A layout has cut rows after a given number of them. -/
structure Layout.Cuts (layout : Layout) (count : Nat) (rows : List String) : Prop where
  kept : layout.lines.rdropWhile String.isEmpty = (rows.take count).rdropWhile String.isEmpty
  omitted : layout.omitted = countOmitted count rows
  whole : layout.omitted = 0 → layout.lines = rows

theorem Layout.add_of_room {layout : Layout} (none_omitted : layout.omitted = 0) {space : Nat}
    (positive : 0 < space) (rows : List String) :
    layout.add (layout.lines.length + space) rows =
      { lines := layout.lines ++ rows.take space ++ [""], omitted := rows.length - space } := by
  have room : ((layout.lines.length + space : Int) - layout.lines.length).toNat = space := by omega
  rw [Layout.add, if_neg (by omega), room]

/-- One more section leaves rows cut at the same place. -/
theorem Layout.Cuts.add {layout : Layout} {maxLines : Int} {before rows : List String}
    (cuts : layout.Cuts maxLines.toNat before) (nonempty : rows ≠ []) (none_blank : "" ∉ rows) :
    (layout.add maxLines rows).Cuts maxLines.toNat (before ++ (rows ++ [""])) := by
  have count_rows : ∀ shown : List String, "" ∉ shown →
      (nonblank (shown ++ [""])).length = shown.length := by
    intro shown none_blank
    rw [nonblank_append, nonblank_eq_self none_blank, List.length_append]
    rfl
  by_cases full : 0 < layout.omitted ∨ maxLines ≤ layout.lines.length
  · have cut_before : maxLines.toNat ≤ before.length := by
      by_cases some_omitted : 0 < layout.omitted
      · exact (lt_length_of_countOmitted_pos (cuts.omitted ▸ some_omitted)).le
      · have lines_eq := cuts.whole (Nat.eq_zero_of_not_pos some_omitted)
        rw [lines_eq] at full
        omega
    rw [Layout.add, if_pos full]
    refine ⟨?_, ?_, ?_⟩
    · rw [List.take_append_of_le_length cut_before]
      exact cuts.kept
    · rw [countOmitted_append cut_before, count_rows rows none_blank, ← cuts.omitted]
    · intro none_omitted
      have no_rows : rows.length = 0 := (Nat.add_eq_zero_iff.mp none_omitted).2
      exact absurd (List.eq_nil_of_length_eq_zero no_rows) nonempty
  · have none_omitted : layout.omitted = 0 := by omega
    obtain rfl := cuts.whole none_omitted
    obtain ⟨space, rfl⟩ := Int.le.dest (by omega : (layout.lines.length : Int) ≤ maxLines)
    have count_eq : (layout.lines.length + space : Int).toNat = layout.lines.length + space := by
      omega
    rw [Layout.add_of_room none_omitted (by omega), count_eq]
    refine ⟨?_, ?_, ?_⟩
    · -- The blank row behind the section is laid out even where it is one too many.
      have blank : ∀ row ∈ [""], row.isEmpty = true := by simp
      rw [List.take_length_add_append, List.take_append, ← List.append_assoc,
        rdropWhile_append_blank _ blank,
        rdropWhile_append_blank _ fun row row_mem => blank row (List.mem_of_mem_take row_mem)]
    · rw [countOmitted, List.drop_length_add_append]
      by_cases fits : space ≤ rows.length
      · rw [List.drop_append_of_le_length fits,
          count_rows _ fun blank => none_blank (List.mem_of_mem_drop blank), List.length_drop]
      · rw [List.drop_eq_nil_of_le (by simp; omega)]
        exact Nat.sub_eq_zero_of_le (Nat.not_le.mp fits).le
    · intro fits
      rw [List.take_of_length_le (Nat.le_of_sub_eq_zero fits), List.append_assoc]

theorem Layout.Cuts.foldl {layout : Layout} {maxLines : Int} {before : List String}
    (cuts : layout.Cuts maxLines.toNat before) {parts : List (List String)}
    (separable : AreSeparable "" parts) :
    (parts.foldl (Layout.add maxLines) layout).Cuts maxLines.toNat
      (before ++ parts.flatMap (· ++ [""])) := by
  induction parts generalizing layout before with
  | nil => simpa using cuts
  | cons rows parts induction =>
      obtain ⟨⟨nonempty, none_blank⟩, separable⟩ := List.forall_mem_cons.mp separable
      rw [List.foldl_cons, List.flatMap_cons, ← List.append_assoc]
      exact induction (cuts.add nonempty none_blank) separable

/-- A blank row behind the others is neither kept nor counted. -/
theorem Layout.Cuts.of_concat_blank {layout : Layout} {count : Nat} {rows : List String}
    (cuts : layout.Cuts count (rows ++ [""])) :
    layout.lines.rdropWhile String.isEmpty = (rows.take count).rdropWhile String.isEmpty ∧
      layout.omitted = countOmitted count rows := by
  have blank : ∀ row ∈ [""], row.isEmpty = true := by simp
  refine ⟨?_, ?_⟩
  · rw [cuts.kept, List.take_append,
      rdropWhile_append_blank _ fun row row_mem => blank row (List.mem_of_mem_take row_mem)]
  · have none_behind : nonblank ([""].drop (count - rows.length)) = [] := by
      rw [nonblank, List.filter_eq_nil_iff]
      intro row row_mem
      simp [blank row (List.mem_of_mem_drop row_mem)]
    rw [cuts.omitted, countOmitted, List.drop_append, nonblank_append, none_behind,
      List.append_nil]
    rfl

/-- Sections are laid out as their rows are cut. -/
theorem cuts_foldl_add {parts : List (List String)} (separable : AreSeparable "" parts)
    (maxLines : Int) :
    let layout := parts.foldl (Layout.add maxLines) {}
    let rows := [""].intercalate parts
    layout.lines.rdropWhile String.isEmpty =
        (rows.take maxLines.toNat).rdropWhile String.isEmpty ∧
      layout.omitted = countOmitted maxLines.toNat rows := by
  intro layout rows
  have start : Layout.Cuts {} maxLines.toNat [] := by
    refine ⟨?_, ?_, fun _ => rfl⟩
    · rw [List.take_nil]
    · rw [countOmitted, List.drop_nil]
      rfl
  cases parts with
  | nil => exact ⟨start.kept, start.omitted⟩
  | cons block blocks =>
      have cuts := start.foldl separable
      rw [List.nil_append, flatMap_append_separator "" (List.cons_ne_nil _ _)] at cuts
      exact cuts.of_concat_blank

theorem truncationNotice_eq_ok_iff {omitted : Nat} {maxLines : Int} {text : String} :
    truncationNotice omitted maxLines = .ok text ↔
      (omitted < Nat.pow 10 maxDigits ∧ maxLines.natAbs < Nat.pow 10 maxDigits) ∧
        text = notice omitted maxLines := by
  simp only [truncationNotice, bind_eq_ok_iff, writeNumber_eq_ok_iff, writeInteger_eq_ok_iff]
  constructor
  · rintro ⟨_, ⟨small, rfl⟩, _, ⟨limit_small, rfl⟩, writes⟩
    exact ⟨⟨small, limit_small⟩, (Except.ok.inj writes).symm⟩
  · rintro ⟨⟨small, limit_small⟩, rfl⟩
    exact ⟨_, ⟨small, rfl⟩, _, ⟨limit_small, rfl⟩, rfl⟩

/-- The layout of sections is what is left of their rows, if the notice can be written. -/
theorem layOut_eq_ok_iff {parts : List (List String)} (separable : AreSeparable "" parts)
    {maxLines : Int} {lines : List String} :
    layOut maxLines parts = .ok lines ↔
      IsCutWritable maxLines ([""].intercalate parts) ∧
        lines = cutRows maxLines ([""].intercalate parts) := by
  obtain ⟨kept, omitted⟩ := cuts_foldl_add separable maxLines
  rw [IsCutWritable, cutRows, keptRows_eq_rdropWhile separable.isChain_intercalate, ← kept,
    ← omitted, layOut]
  generalize parts.foldl (Layout.add maxLines) {} = layout
  by_cases none_omitted : layout.omitted = 0
  · have writes : layout.finish maxLines = .ok (layout.lines.rdropWhile String.isEmpty) :=
      if_pos none_omitted
    rw [writes, if_pos none_omitted, List.append_nil, Except.ok.injEq, eq_comm]
    exact (and_iff_right fun due => absurd none_omitted due).symm
  · have writes : layout.finish maxLines = do
        let text ← truncationNotice layout.omitted maxLines
        return layout.lines.rdropWhile String.isEmpty ++ [text] := if_neg none_omitted
    rw [writes, if_neg none_omitted, bind_eq_ok_iff]
    simp only [truncationNotice_eq_ok_iff]
    constructor
    · rintro ⟨_, ⟨small, rfl⟩, writes⟩
      exact ⟨fun _ => small, (Except.ok.inj writes).symm⟩
    · rintro ⟨small, rfl⟩
      exact ⟨_, ⟨small none_omitted, rfl⟩, rfl⟩

end DiffReview.Summary
