import DiffReview.Proofs.Findings
import Mathlib.Data.List.TakeDrop

/-!
# Function blocks

The scan for functions carries a state from line to line.  What it finds has a description without
one: from the first line on that starts a function, the fewest lines, two at least, after which no
brace is open make a block, and the search goes on behind it.  The state is what the scan remembers
of the lines of an unfinished block.
-/

namespace DiffReview

/-! ## Blocks -/

/-- Opening less closing braces of some lines. -/
def openBraces (lines : List (String × Nat)) : Int :=
  let text := lines.flatMap fun (content, _) => content.toList
  text.count '\x7b' - text.count '\x7d'

theorem openBraces_append (first second : List (String × Nat)) :
    openBraces (first ++ second) = openBraces first + openBraces second := by
  simp only [openBraces, List.flatMap_append, List.count_append]
  omega

theorem openBraces_singleton (line : String × Nat) :
    openBraces [line] = braceBalance line.1 := by
  rw [openBraces, List.flatMap_singleton]
  rfl

/-- The lines are closed for the first time, apart from the first line alone, after that many. -/
structure ClosesAfter (lines : List (String × Nat)) (count : Nat) : Prop where
  /-- A block does not end with its first line. -/
  two_le : 2 ≤ count
  /-- There are that many lines. -/
  le_length : count ≤ lines.length
  /-- No brace is open after them. -/
  closed : openBraces (lines.take count) ≤ 0
  /-- A brace is open after fewer lines. -/
  still_open : ∀ fewer, 2 ≤ fewer → fewer < count → 0 < openBraces (lines.take fewer)

/-- The fewest lines, two at least, after which no brace is open. -/
def closing? (lines : List (String × Nat)) : Option Nat :=
  (List.range' 2 (lines.length - 1)).find? fun count => openBraces (lines.take count) ≤ 0

/-- A line that starts a function, and some of the lines after it. -/
structure FunctionBlock where
  /-- The line that starts the function, with its number. -/
  first : String × Nat
  /-- The lines after it. -/
  others : List (String × Nat)
deriving DecidableEq, Repr

namespace FunctionBlock

/-- The lines of the block. -/
def lines (block : FunctionBlock) : List (String × Nat) :=
  block.first :: block.others

/-- The number of lines. -/
def length (block : FunctionBlock) : Nat :=
  block.lines.length

/-- Where the block starts, and how long it is. -/
def span (block : FunctionBlock) : Nat × Nat :=
  (block.first.2, block.length)

/-- The warning that the block is longer than the limit. -/
def warning (limit : Int) (filename : String) (block : FunctionBlock) : Comment where
  filename := filename
  line := block.first.2
  body :=
    let count := block.length
    s!"Function is {count} lines long (limit: {limit}); consider extracting smaller functions."
  severity := .warning
  source := "heuristic"

/-- The warnings that some blocks are longer than the limit, unless there are any and the limit that
they state has too many digits. -/
def warnings (limit : Int) (filename : String) (blocks : List FunctionBlock) :
    Except Text.DigitLimitError (List Comment) :=
  if blocks = [] ∨ limit.natAbs < Nat.pow 10 Text.maxDigits then
    .ok (blocks.map (warning limit filename))
  else
    .error .writing

end FunctionBlock

/-- The blocks among added lines: from the first line on that starts a function, the fewest lines
that close, and then the blocks of the lines behind them. -/
def functionBlocks : List (String × Nat) → List FunctionBlock
  | [] => []
  | first :: others =>
    if startsFunction first.1 then
      match closing? (first :: others) with
      | none => []
      | some count => ⟨first, others.take (count - 1)⟩ :: functionBlocks (others.drop (count - 1))
    else
      functionBlocks others
termination_by lines => lines.length
decreasing_by all_goals simp only [List.length_drop, List.length_cons]; omega

theorem closing?_eq_some_iff {lines : List (String × Nat)} {count : Nat} :
    closing? lines = some count ↔ ClosesAfter lines count := by
  rw [closing?, List.find?_range'_eq_some, List.mem_range'_1]
  constructor
  · rintro ⟨closed, ⟨two_le, le_length⟩, still_open⟩
    refine ⟨two_le, by omega, of_decide_eq_true closed, ?_⟩
    intro fewer two_le_fewer fewer_lt
    simpa using still_open fewer two_le_fewer fewer_lt
  · rintro ⟨two_le, le_length, closed, still_open⟩
    refine ⟨decide_eq_true closed, ⟨two_le, by omega⟩, ?_⟩
    intro fewer two_le_fewer fewer_lt
    simpa using still_open fewer two_le_fewer fewer_lt

theorem closing?_eq_none_iff {lines : List (String × Nat)} :
    closing? lines = none ↔
      ∀ count, 2 ≤ count → count ≤ lines.length → 0 < openBraces (lines.take count) := by
  rw [closing?, List.find?_range'_eq_none]
  constructor
  · intro still_open count two_le le_length
    simpa using still_open count two_le (by omega)
  · intro still_open count two_le le_length
    simpa using still_open count two_le (by omega)

/-- Where lines close does not depend on those behind. -/
theorem ClosesAfter.congr {lines other : List (String × Nat)} {count : Nat}
    (closes : ClosesAfter lines count) (le_length : count ≤ other.length)
    (same : lines.take count = other.take count) : ClosesAfter other count := by
  refine ⟨closes.two_le, le_length, same ▸ closes.closed, ?_⟩
  intro fewer two_le_fewer fewer_lt
  have same_fewer := congrArg (List.take fewer) same
  rw [List.take_take, List.take_take, Nat.min_eq_left (Nat.le_of_lt fewer_lt)] at same_fewer
  rw [← same_fewer]
  exact closes.still_open fewer two_le_fewer fewer_lt

theorem closesAfter_append_iff {block after : List (String × Nat)} :
    ClosesAfter (block ++ after) block.length ↔ ClosesAfter block block.length := by
  have same : (block ++ after).take block.length = block.take block.length := by
    rw [List.take_left, List.take_length]
  constructor
  · intro closes
    exact closes.congr (Nat.le_refl _) same
  · intro closes
    exact closes.congr (by simp) same.symm

/-! ## Finding blocks -/

theorem functionBlocks_append_of_closes {block : FunctionBlock} {after : List (String × Nat)}
    (starts : startsFunction block.first.1 = true)
    (closes : ClosesAfter block.lines block.length) :
    functionBlocks (block.lines ++ after) = block :: functionBlocks after := by
  have closing : closing? (block.lines ++ after) = some block.length :=
    closing?_eq_some_iff.mpr (closesAfter_append_iff.mpr closes)
  have others_eq : block.length - 1 = block.others.length := rfl
  rw [FunctionBlock.lines, List.cons_append] at closing ⊢
  rw [functionBlocks, if_pos starts, closing]
  simp [others_eq]

theorem ClosesAfter.length_block {first : String × Nat} {others : List (String × Nat)}
    {count : Nat} (closes : ClosesAfter (first :: others) count) :
    (FunctionBlock.mk first (others.take (count - 1))).length = count := by
  have two_le := closes.two_le
  have le_length := closes.le_length
  simp only [FunctionBlock.length, FunctionBlock.lines, List.length_cons,
    List.length_take] at le_length ⊢
  omega

theorem functionBlocks_of_still_open {first : String × Nat} {others : List (String × Nat)}
    (starts : startsFunction first.1 = true)
    (still_open : ∀ count, 2 ≤ count → count ≤ (first :: others).length →
      0 < openBraces ((first :: others).take count)) :
    functionBlocks (first :: others) = [] := by
  rw [functionBlocks, if_pos starts, closing?_eq_none_iff.mpr still_open]

/-! ## The scan -/

namespace OpenFunction

/-- What the scan remembers of the lines of an unfinished block. -/
def ofLines (start : Nat) (lines : List (String × Nat)) : OpenFunction where
  start := start
  length := lines.length
  depth := openBraces lines

theorem ofLines_nil (start : Nat) : ofLines start [] = { start } :=
  rfl

theorem extend_ofLines (start : Nat) (lines : List (String × Nat)) (line : String × Nat) :
    (ofLines start lines).extend line.1 = ofLines start (lines ++ [line]) := by
  simp [extend, ofLines, openBraces_append, openBraces_singleton]

theorem isComplete_ofLines {start : Nat} {lines : List (String × Nat)} :
    (ofLines start lines).isComplete = true ↔ 2 ≤ lines.length ∧ openBraces lines ≤ 0 := by
  rw [isComplete, Bool.and_eq_true, decide_eq_true_iff, decide_eq_true_iff]
  exact and_comm

end OpenFunction

section Scan

variable {start : Nat} {seen rest : List (String × Nat)}

/-- The scan ends a block after the fewest lines that close, and goes on behind them. -/
theorem functionSpans_of_closes {count : Nat} (closes : ClosesAfter (seen ++ rest) count)
    (unfinished : seen.length < count) :
    functionSpans (some (.ofLines start seen)) rest =
      (start, count) :: functionSpans none (rest.drop (count - seen.length)) := by
  induction rest generalizing seen with
  | nil =>
      have le_length := closes.le_length
      rw [List.append_nil] at le_length
      omega
  | cons line rest induction =>
      have take_eq : (seen ++ line :: rest).take (seen.length + 1) = seen ++ [line] := by
        simp [List.take_append]
      rw [functionSpans, OpenFunction.extend_ofLines]
      by_cases last : count = seen.length + 1
      · have complete : (OpenFunction.ofLines start (seen ++ [line])).isComplete = true := by
          rw [OpenFunction.isComplete_ofLines, List.length_append, ← take_eq, ← last]
          exact ⟨last ▸ closes.two_le, closes.closed⟩
        rw [if_pos complete, last]
        simp [OpenFunction.ofLines]
      · have incomplete : ¬(OpenFunction.ofLines start (seen ++ [line])).isComplete = true := by
          rw [OpenFunction.isComplete_ofLines, List.length_append, ← take_eq]
          rintro ⟨two_le, closed⟩
          exact Int.not_lt.mpr closed (closes.still_open _ two_le (by omega))
        rw [if_neg incomplete, induction (by simpa using closes) (by simp; omega)]
        have drop_eq : (line :: rest).drop (count - seen.length) =
            rest.drop (count - (seen ++ [line]).length) := by
          obtain ⟨more, count_eq⟩ : ∃ more, count - seen.length = more + 1 :=
            ⟨count - seen.length - 1, by omega⟩
          rw [count_eq, List.drop_succ_cons]
          congr 1
          simp
          omega
        rw [drop_eq]

theorem functionSpans_of_still_open
    (still_open : ∀ count, 2 ≤ count → seen.length < count → count ≤ (seen ++ rest).length →
      0 < openBraces ((seen ++ rest).take count)) :
    functionSpans (some (.ofLines start seen)) rest = [] := by
  induction rest generalizing seen with
  | nil => rfl
  | cons line rest induction =>
      have take_eq : (seen ++ line :: rest).take (seen.length + 1) = seen ++ [line] := by
        simp [List.take_append]
      have incomplete : ¬(OpenFunction.ofLines start (seen ++ [line])).isComplete = true := by
        rw [OpenFunction.isComplete_ofLines, List.length_append, ← take_eq]
        rintro ⟨two_le, closed⟩
        exact Int.not_lt.mpr closed
          (still_open _ two_le (Nat.lt_succ_self _) (by simp))
      rw [functionSpans, OpenFunction.extend_ofLines, if_neg incomplete]
      apply induction
      intro count two_le unfinished le_length
      rw [List.append_assoc, List.singleton_append] at le_length ⊢
      rw [List.length_append] at unfinished
      exact still_open count two_le (by omega) le_length

end Scan

/-- The scan finds the blocks, each with its start and its length. -/
theorem functionSpans_eq_functionBlocks (lines : List (String × Nat)) :
    functionSpans none lines = (functionBlocks lines).map FunctionBlock.span := by
  induction lines using functionBlocks.induct with
  | case1 => rw [functionSpans, functionBlocks, List.map_nil]
  | case2 first others starts not_closed =>
      have still_open := closing?_eq_none_iff.mp not_closed
      rw [functionBlocks_of_still_open starts still_open, functionSpans, if_pos starts,
        ← OpenFunction.ofLines_nil, OpenFunction.extend_ofLines]
      exact functionSpans_of_still_open fun count two_le _ le_length =>
        still_open count two_le le_length
  | case3 first others starts count closing induction =>
      have closes := closing?_eq_some_iff.mp closing
      rw [functionSpans, if_pos starts, ← OpenFunction.ofLines_nil, OpenFunction.extend_ofLines,
        functionSpans_of_closes closes closes.two_le, functionBlocks, if_pos starts, closing]
      simp only [List.map_cons, FunctionBlock.span, closes.length_block]
      rw [← induction]
      rfl
  | case4 first others not_starts induction =>
      rw [functionSpans, functionBlocks, if_neg not_starts, if_neg not_starts, induction]

/-! ## What is reported -/

theorem lines_append_drop {first : String × Nat} {others : List (String × Nat)} {count : Nat} :
    (FunctionBlock.mk first (others.take count)).lines ++ others.drop count = first :: others := by
  rw [FunctionBlock.lines, List.cons_append, List.take_append_drop]

/-- A block starts a function, and it ends where it closes. -/
theorem closes_of_mem_functionBlocks {lines : List (String × Nat)} {block : FunctionBlock}
    (mem : block ∈ functionBlocks lines) :
    startsFunction block.first.1 = true ∧ ClosesAfter block.lines block.length := by
  induction lines using functionBlocks.induct with
  | case1 => simp [functionBlocks] at mem
  | case2 first others starts not_closed =>
      rw [functionBlocks, if_pos starts, not_closed] at mem
      contradiction
  | case3 first others starts count closing induction =>
      rw [functionBlocks, if_pos starts, closing] at mem
      rcases List.mem_cons.mp mem with rfl | mem
      · have closes := closing?_eq_some_iff.mp closing
        have block_closes : ClosesAfter
            ((FunctionBlock.mk first (others.take (count - 1))).lines ++ others.drop (count - 1))
              (FunctionBlock.mk first (others.take (count - 1))).length := by
          rw [lines_append_drop, closes.length_block]
          exact closes
        exact ⟨starts, closesAfter_append_iff.mp block_closes⟩
      · exact induction mem
  | case4 first others not_starts induction =>
      rw [functionBlocks, if_neg not_starts] at mem
      exact induction mem

/-- The blocks stand in the order of the lines, apart from each other, and no function starts
between them. -/
theorem exists_gaps (lines : List (String × Nat)) :
    ∃ (gaps : List (List (String × Nat))) (tail : List (String × Nat)),
      gaps.length = (functionBlocks lines).length ∧
      (∀ gap ∈ gaps, ∀ line ∈ gap, startsFunction line.1 = false) ∧
        (gaps.zipWith (fun gap block => gap ++ block.lines) (functionBlocks lines)).flatten ++
          tail = lines := by
  induction lines using functionBlocks.induct with
  | case1 => exact ⟨[], [], by simp [functionBlocks]⟩
  | case2 first others starts not_closed =>
      exact ⟨[], first :: others, by simp [functionBlocks, starts, not_closed]⟩
  | case3 first others starts count closing induction =>
      obtain ⟨gaps, tail, length_eq, between, split⟩ := induction
      refine ⟨[] :: gaps, tail, ?_, ?_, ?_⟩
      · simp [functionBlocks, starts, closing, length_eq]
      · simpa using between
      · rw [functionBlocks, if_pos starts, closing, ← lines_append_drop, ← split,
          List.zipWith_cons_cons, List.flatten_cons, List.nil_append, List.append_assoc]
  | case4 first others not_starts induction =>
      obtain ⟨gaps, tail, length_eq, between, split⟩ := induction
      rw [functionBlocks, if_neg not_starts]
      cases gaps with
      | nil => exact ⟨[], first :: tail, length_eq, between, by simpa using split⟩
      | cons gap gaps =>
          refine ⟨(first :: gap) :: gaps, tail, length_eq, ?_, ?_⟩
          · rw [List.forall_mem_cons] at between ⊢
            rw [List.forall_mem_cons]
            exact ⟨⟨Bool.eq_false_iff.mpr not_starts, between.1⟩, between.2⟩
          · cases blocks : functionBlocks others with
            | nil => simp [blocks] at length_eq
            | cons block blocks_behind =>
                rw [blocks] at split
                simpa using split

namespace FunctionBlock

/-- The finding that the block is longer than the limit. -/
def finding (limit : Int) (filename : String) (block : FunctionBlock) : Finding :=
  ⟨filename, block.first.2, .longFunction block.length limit⟩

theorem mapM_comment_finding (limit : Int) (filename : String) (blocks : List FunctionBlock) :
    (blocks.map (finding limit filename)).mapM Finding.comment =
      warnings limit filename blocks := by
  by_cases wordable : blocks = [] ∨ limit.natAbs < Nat.pow 10 Text.maxDigits
  · rw [warnings, if_pos wordable, Finding.mapM_comment_eq_ok_iff, List.map_map]
    refine ⟨fun finding mem => ?_, rfl⟩
    obtain ⟨block, block_mem, rfl⟩ := List.mem_map.mp mem
    exact wordable.resolve_left (List.ne_nil_of_mem block_mem)
  · obtain ⟨block, block_mem⟩ := List.exists_mem_of_ne_nil blocks (not_or.mp wordable).1
    rw [warnings, if_neg wordable, Finding.mapM_comment_eq_error_iff]
    exact ⟨⟨_, List.mem_map_of_mem block_mem, (not_or.mp wordable).2⟩, rfl⟩

end FunctionBlock

theorem checkFunctions_eq_map_finding (limits : Limits) (filename : String) (hunk : Hunk) :
    limits.checkFunctions filename hunk =
      ((functionBlocks hunk.addedLines).filter fun block => limits.functionLines < block.length).map
        (FunctionBlock.finding limits.functionLines filename) := by
  rw [Limits.checkFunctions, functionSpans_eq_functionBlocks, List.filter_map, List.map_map]
  rfl

end DiffReview
