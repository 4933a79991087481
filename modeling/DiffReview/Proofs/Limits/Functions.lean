import DiffReview.Proofs.Limits.Blocks

/-!
# Functions and blocks

A function is a block that opens a brace and closes all of them with its last line.  In lines that
are nothing but functions the scan finds the functions if each of them opens a brace in its first
two lines and none but the last is a single line.  A function that opens its first brace later is
taken to end with its second line, and a single line is taken to go on into the next function.
-/

namespace DiffReview

/-- One of the lines opens a brace. -/
def OpensBrace (lines : List (String × Nat)) : Prop :=
  ∃ line ∈ lines, '\x7b' ∈ line.1.toList

instance (lines : List (String × Nat)) : Decidable (OpensBrace lines) :=
  inferInstanceAs (Decidable (∃ line ∈ lines, _))

theorem opensBrace_of_openBraces_pos {lines : List (String × Nat)}
    (still_open : 0 < openBraces lines) : OpensBrace lines := by
  have counted : 0 < (lines.flatMap fun line => line.1.toList).count '\x7b' := by
    simp only [openBraces] at still_open
    omega
  exact List.mem_flatMap.mp (List.count_pos_iff.mp counted)

theorem OpensBrace.take_mono {lines : List (String × Nat)} {fewer count : Nat}
    (opens : OpensBrace (lines.take fewer)) (le : fewer ≤ count) :
    OpensBrace (lines.take count) := by
  obtain ⟨line, mem, brace⟩ := opens
  exact ⟨line, List.take_subset_take_left lines le mem, brace⟩

namespace FunctionBlock

/-- A block that is one function, from the line that starts it to the line that closes it. -/
@[mk_iff]
structure IsFunction (block : FunctionBlock) : Prop where
  /-- The first line starts a function. -/
  starts : startsFunction block.first.1 = true
  /-- No other line does. -/
  starts_once : ∀ line ∈ block.others, startsFunction line.1 = false
  /-- A brace is opened. -/
  opens : OpensBrace block.lines
  /-- All braces are closed again. -/
  balanced : openBraces block.lines = 0
  /-- Before the last line either no brace has been opened yet, or one is open. -/
  still_open : ∀ count < block.length,
    OpensBrace (block.lines.take count) → 0 < openBraces (block.lines.take count)

instance (block : FunctionBlock) : Decidable block.IsFunction :=
  decidable_of_iff' _ block.isFunction_iff

/-- A function closes with its last line if it has two lines that open a brace. -/
theorem IsFunction.closesAfter_iff {block : FunctionBlock} (whole : block.IsFunction) :
    ClosesAfter block.lines block.length ↔
      2 ≤ block.length ∧ OpensBrace (block.lines.take 2) := by
  constructor
  · intro closes
    refine ⟨closes.two_le, ?_⟩
    rcases Nat.eq_or_lt_of_le closes.two_le with short | long
    · rw [short, length, List.take_length]
      exact whole.opens
    · exact opensBrace_of_openBraces_pos (closes.still_open 2 (Nat.le_refl _) long)
  · rintro ⟨two_le, opens⟩
    refine ⟨two_le, Nat.le_refl _, ?_, ?_⟩
    · rw [length, List.take_length]
      exact Int.le_of_eq whole.balanced
    · intro fewer two_le_fewer fewer_lt
      exact whole.still_open fewer fewer_lt (opens.take_mono two_le_fewer)

/-- Functions that the scan tells apart. -/
structure AreDistinguished (functions : List FunctionBlock) : Prop where
  /-- Each opens a brace in its first two lines. -/
  opens : ∀ function ∈ functions, OpensBrace (function.lines.take 2)
  /-- None but the last is a single line. -/
  two_le : ∀ function ∈ functions.dropLast, 2 ≤ function.length

theorem areDistinguished_cons_iff {function : FunctionBlock} {functions : List FunctionBlock} :
    AreDistinguished (function :: functions) ↔
      OpensBrace (function.lines.take 2) ∧ (functions ≠ [] → 2 ≤ function.length) ∧
        AreDistinguished functions := by
  constructor
  · rintro ⟨opens, two_le⟩
    rw [List.forall_mem_cons] at opens
    refine ⟨opens.1, ?_, opens.2, ?_⟩
    · intro more
      exact two_le function (by simp [List.dropLast_cons_of_ne_nil more])
    · intro other mem
      have more : functions ≠ [] := by
        rintro rfl
        simp at mem
      exact two_le other (by simp [List.dropLast_cons_of_ne_nil more, mem])
  · rintro ⟨opens, two_le, distinguished⟩
    refine ⟨List.forall_mem_cons.mpr ⟨opens, distinguished.opens⟩, ?_⟩
    cases functions with
    | nil => simp
    | cons next functions =>
        rw [List.dropLast_cons_of_ne_nil (List.cons_ne_nil _ _), List.forall_mem_cons]
        exact ⟨two_le (List.cons_ne_nil _ _), distinguished.two_le⟩

end FunctionBlock

open FunctionBlock

theorem functionBlocks_of_areDistinguished {functions : List FunctionBlock}
    (whole : ∀ function ∈ functions, function.IsFunction)
    (distinguished : AreDistinguished functions) :
    functionBlocks (functions.flatMap lines) =
      functions.filter fun function => 2 ≤ function.length := by
  induction functions with
  | nil => rw [List.flatMap_nil, functionBlocks, List.filter_nil]
  | cons function functions induction =>
      rw [List.forall_mem_cons] at whole
      obtain ⟨opens, two_le_of_more, distinguished⟩ := areDistinguished_cons_iff.mp distinguished
      rw [List.flatMap_cons]
      by_cases two_le : 2 ≤ function.length
      · have closes := whole.1.closesAfter_iff.mpr ⟨two_le, opens⟩
        rw [functionBlocks_append_of_closes whole.1.starts closes,
          induction whole.2 distinguished, List.filter_cons_of_pos (by simpa using two_le)]
      · have last : functions = [] := by
          by_contra more
          exact two_le (two_le_of_more more)
        have none_found : functionBlocks function.lines = [] := by
          apply functionBlocks_of_still_open whole.1.starts
          intro count two_le_count le_length
          exact absurd (Nat.le_trans two_le_count le_length) two_le
        rw [last, List.flatMap_nil, List.append_nil, none_found,
          List.filter_cons_of_neg (by simpa using two_le), List.filter_nil]

theorem head?_functionBlocks {block : FunctionBlock} (after : List (String × Nat))
    (starts : startsFunction block.first.1 = true) :
    ((functionBlocks (block.lines ++ after)).map span).head? =
      (closing? (block.lines ++ after)).map fun count => (block.first.2, count) := by
  rw [lines, List.cons_append, functionBlocks, if_pos starts]
  cases closing : closing? (block.first :: (block.others ++ after)) with
  | none => rfl
  | some count =>
      rw [List.map_cons, List.head?_cons, Option.map_some, span,
        (closing?_eq_some_iff.mp closing).length_block]

/-- A block ends behind two functions at the latest. -/
theorem closing?_ne_none {function next : FunctionBlock} (after : List (String × Nat))
    (balanced : openBraces function.lines = 0) (next_balanced : openBraces next.lines = 0) :
    closing? (function.lines ++ (next.lines ++ after)) ≠ none := by
  intro not_closed
  have two_le : 2 ≤ (function.lines ++ next.lines).length := by
    simp only [lines, List.length_append, List.length_cons]
    omega
  have still_open := closing?_eq_none_iff.mp not_closed _ two_le (by simp)
  rw [← List.append_assoc, List.take_left, openBraces_append, balanced, next_balanced]
    at still_open
  contradiction

/-- The number of a line is not that of a function behind it. -/
theorem number_ne_of_nodup {function other : FunctionBlock} {functions : List FunctionBlock}
    (numbered : (((function :: functions).flatMap lines).map Prod.snd).Nodup)
    (mem : other ∈ functions) : function.first.2 ≠ other.first.2 := by
  rw [List.flatMap_cons, List.map_append, List.nodup_append] at numbered
  apply numbered.2.2
  · exact List.mem_map_of_mem List.mem_cons_self
  · exact List.mem_map_of_mem (List.mem_flatMap_of_mem mem List.mem_cons_self)

theorem areDistinguished_of_functionBlocks {functions : List FunctionBlock}
    (whole : ∀ function ∈ functions, function.IsFunction)
    (numbered : ((functions.flatMap lines).map Prod.snd).Nodup)
    (found : (functionBlocks (functions.flatMap lines)).map span =
      (functions.filter fun function => 2 ≤ function.length).map span) :
    AreDistinguished functions := by
  induction functions with
  | nil => exact ⟨by simp, by simp⟩
  | cons function functions induction =>
      rw [List.forall_mem_cons] at whole
      have head_eq := congrArg List.head? found
      rw [List.flatMap_cons, head?_functionBlocks _ whole.1.starts] at head_eq
      by_cases two_le : 2 ≤ function.length
      · rw [List.filter_cons_of_pos (by simpa using two_le)] at found head_eq
        have closing : closing? (function.lines ++ functions.flatMap lines) =
            some function.length := by
          simpa [span] using head_eq
        have closes := closesAfter_append_iff.mp (closing?_eq_some_iff.mp closing)
        rw [List.flatMap_cons, functionBlocks_append_of_closes whole.1.starts closes,
          List.map_cons, List.map_cons, List.cons.injEq] at found
        rw [List.flatMap_cons, List.map_append, List.nodup_append] at numbered
        exact areDistinguished_cons_iff.mpr ⟨(whole.1.closesAfter_iff.mp closes).2,
          fun _ => two_le, induction whole.2 numbered.2.1 found.2⟩
      · -- A block starts at a single line with another function behind it, and no function there
        -- has the number of that line.
        have last : functions = [] := by
          by_contra more
          obtain ⟨next, functions, rfl⟩ := List.exists_cons_of_ne_nil more
          obtain ⟨count, closing⟩ := Option.ne_none_iff_exists'.mp
            (closing?_ne_none (functions.flatMap lines) whole.1.balanced
              (whole.2 next List.mem_cons_self).balanced)
          rw [List.filter_cons_of_neg (by simpa using two_le), List.flatMap_cons, closing,
            Option.map_some] at head_eq
          obtain ⟨other, mem, span_eq⟩ := List.mem_map.mp (List.mem_of_head? head_eq.symm)
          exact number_ne_of_nodup numbered (List.mem_filter.mp mem).1
            (congrArg Prod.fst span_eq).symm
        subst last
        refine areDistinguished_cons_iff.mpr ⟨?_, by simp, ⟨by simp, by simp⟩⟩
        have short : function.lines.length ≤ 2 := Nat.le_of_lt (Nat.not_le.mp two_le)
        rw [List.take_of_length_le short]
        exact whole.1.opens

/-! ## What is reported -/

/-- The wording tells how long the function is. -/
theorem Excess.wording_longFunction_inj {text : String} {limit : Int} {length other : Nat}
    (same : Excess.wording text (.longFunction length limit) =
      Excess.wording text (.longFunction other limit)) : length = other := by
  have without_limit := (String.append_left_inj _).mp
    ((String.append_left_inj _).mp ((String.append_left_inj _).mp same))
  have text_eq : length.repr = other.repr := (String.append_right_inj _).mp without_limit
  calc
    length = Nat.ofDigitChars 10 length.repr.toList 0 := by
      rw [Nat.toList_repr, Nat.ofDigitChars_ten_toDigits]
    _ = other := by
      rw [text_eq, Nat.toList_repr, Nat.ofDigitChars_ten_toDigits]

theorem stated_longFunction_injective (limit : Int) (filename : String) :
    Function.Injective fun found : Nat × Nat =>
      Finding.stated ⟨filename, found.1, .longFunction found.2 limit⟩ := by
  rintro ⟨start, length⟩ ⟨other_start, other_length⟩ same
  simp only [Finding.stated, Finding.commentOf, Comment.mk.injEq] at same
  obtain ⟨-, start_eq, wording_eq, -⟩ := same
  rw [Int.ofNat_inj.mp start_eq, Excess.wording_longFunction_inj wording_eq]

/-- The warnings are those about the functions longer than the limit, in order. -/
def Limits.ReportsFunctions (limits : Limits) (filename : String) (hunk : Hunk)
    (functions : List FunctionBlock) : Prop :=
  (limits.checkFunctions filename hunk).mapM Finding.comment =
    warnings limits.functionLines filename
      (functions.filter fun function => limits.functionLines < function.length)

theorem reportsFunctions_iff_warnings_eq {limits : Limits} {filename : String} {hunk : Hunk}
    {functions : List FunctionBlock} :
    limits.ReportsFunctions filename hunk functions ↔
      warnings limits.functionLines filename
          ((functionBlocks hunk.addedLines).filter fun block =>
            limits.functionLines < block.length) =
        warnings limits.functionLines filename
          (functions.filter fun function => limits.functionLines < function.length) := by
  rw [Limits.ReportsFunctions, checkFunctions_eq_map_finding, mapM_comment_finding]

theorem warnings_of_lt_ten {limit : Int} (small : limit.natAbs < 10) (filename : String)
    (blocks : List FunctionBlock) :
    warnings limit filename blocks = .ok (blocks.map (warning limit filename)) :=
  if_pos (.inr (Nat.lt_of_lt_of_le small Text.ten_le_pow_maxDigits))

/-- In lines that are nothing but functions the long ones are reported, and nothing else, if the
scan tells the functions apart, and under a limit of one line only if it does. -/
theorem checkFunctions_reports_functions {functions : List FunctionBlock} {hunk : Hunk}
    (whole : ∀ function ∈ functions, function.IsFunction)
    (lines_eq : hunk.lines =
      (functions.flatMap lines).map fun line => .added line.1 line.2) :
    (AreDistinguished functions →
        ∀ (limits : Limits) (filename : String), 1 ≤ limits.functionLines →
          limits.ReportsFunctions filename hunk functions) ∧
      ((hunk.addedLines.map Prod.snd).Nodup →
        ∀ (limits : Limits) (filename : String), limits.functionLines = 1 →
          limits.ReportsFunctions filename hunk functions → AreDistinguished functions) := by
  have addedLines_eq : hunk.addedLines = functions.flatMap lines := by
    rw [Hunk.addedLines, lines_eq, List.filterMap_map]
    exact List.filterMap_some
  constructor
  · intro distinguished limits filename positive
    rw [reportsFunctions_iff_warnings_eq, addedLines_eq,
      functionBlocks_of_areDistinguished whole distinguished, List.filter_filter]
    congr 1
    apply List.filter_congr
    intro function mem
    rw [← Bool.decide_and]
    apply decide_eq_decide.mpr
    omega
  · intro numbered limits filename one_line reports
    rw [addedLines_eq] at numbered
    apply areDistinguished_of_functionBlocks whole numbered
    rw [reportsFunctions_iff_warnings_eq, addedLines_eq, one_line,
      warnings_of_lt_ten (by decide), warnings_of_lt_ten (by decide), Except.ok.injEq] at reports
    have all_long : (functionBlocks (functions.flatMap lines)).filter
        (fun block => (1 : Int) < block.length) = functionBlocks (functions.flatMap lines) := by
      apply List.filter_eq_self.mpr
      intro block mem
      have two_le := (closes_of_mem_functionBlocks mem).2.two_le
      apply decide_eq_true
      omega
    have long_eq : (functions.filter fun function => (1 : Int) < function.length) =
        functions.filter fun function => 2 ≤ function.length := by
      apply List.filter_congr
      intro function mem
      apply decide_eq_decide.mpr
      omega
    have warning_eq : warning 1 filename =
        (fun found : Nat × Nat => Finding.stated ⟨filename, found.1, .longFunction found.2 1⟩) ∘
          span :=
      rfl
    rw [all_long, long_eq, warning_eq, ← List.map_map, ← List.map_map] at reports
    exact List.map_injective_iff.mpr (stated_longFunction_injective 1 filename) reports

/-- The hunk that adds a file of the given functions. -/
def hunkOfFunctions (functions : List FunctionBlock) : Hunk where
  header := s!"@@ -0,0 +1,{(functions.flatMap lines).length} @@"
  oldStart := 0
  oldCount := 0
  newStart := 1
  newCount := (functions.flatMap lines).length
  lines := (functions.flatMap lines).map fun line => .added line.1 line.2

/-- A function of three lines, one whose brace stands below its head, and a single line. -/
def plainFunctions : List FunctionBlock :=
  [⟨("export function first(x) \x7b", 1), [("  return x;", 2), ("\x7d", 3)]⟩,
    ⟨("async function second()", 4), [("\x7b", 5), ("  await first(2);", 6), ("\x7d", 7)]⟩,
    ⟨("const third = () => \x7b return 3; \x7d", 8), []⟩]

theorem checkFunctions_reports_plainFunctions :
    (∀ function ∈ plainFunctions, function.IsFunction) ∧ AreDistinguished plainFunctions ∧
      ({ functionLines := 3 } : Limits).ReportsFunctions "a.ts" (hunkOfFunctions plainFunctions)
        plainFunctions := by
  have whole : ∀ function ∈ plainFunctions, function.IsFunction := by decide
  have distinguished : AreDistinguished plainFunctions := ⟨by decide, by decide⟩
  refine ⟨whole, distinguished, ?_⟩
  apply (checkFunctions_reports_functions whole rfl).1 distinguished
  decide

/-- A single line, a function of four lines, and one that opens its brace on the fourth of five. -/
def crowdedFunctions : List FunctionBlock :=
  [⟨("function a() \x7b return 1; \x7d", 1), []⟩,
    ⟨("function b() \x7b", 2), [("  return 2;", 3), ("  // done", 4), ("\x7d", 5)]⟩,
    ⟨("function c(", 6), [("  x,", 7), ("  y", 8), (") \x7b", 9), ("\x7d", 10)]⟩]

/-- The single line is reported as a function of five lines, and that of five lines is not. -/
theorem not_reportsFunctions_crowdedFunctions :
    (∀ function ∈ crowdedFunctions, function.IsFunction) ∧
      ({ functionLines := 4 } : Limits).checkFunctions "a.ts" (hunkOfFunctions crowdedFunctions) =
        [⟨"a.ts", 1, .longFunction 5 4⟩] ∧
      ¬({ functionLines := 4 } : Limits).ReportsFunctions "a.ts" (hunkOfFunctions crowdedFunctions)
        crowdedFunctions := by
  have found : ({ functionLines := 4 } : Limits).checkFunctions "a.ts"
      (hunkOfFunctions crowdedFunctions) = [⟨"a.ts", 1, .longFunction 5 4⟩] := by
    decide
  refine ⟨by decide, found, ?_⟩
  intro reports
  have written : [Finding.stated ⟨"a.ts", 1, .longFunction 5 4⟩] =
      (crowdedFunctions.filter fun function => (4 : Int) < function.length).map
        (warning 4 "a.ts") := by
    have small : (4 : Int).natAbs < 10 := by decide
    rw [Limits.ReportsFunctions, found, warnings_of_lt_ten small] at reports
    exact (Finding.mapM_comment_eq_ok_iff.mp reports).2.symm
  have lines_eq := congrArg (List.map Comment.line) written
  revert lines_eq
  decide

end DiffReview
