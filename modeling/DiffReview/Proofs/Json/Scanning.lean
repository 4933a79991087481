import DiffReview.Json.Token
import DiffReview.Proofs.Text.CodePoint
import DiffReview.Proofs.Text.Lines

/-!
# Scanning a part of a text

What is scanned at the start of a part of a text is scanned there as well if the part goes on with a
separator, a closing bracket or a space.  Whatever is scanned, less of the text is left.
-/

namespace DiffReview.Json

open Text

/-- The characters that end the token before them, outside strings. -/
def tokenEnds : List Char := [' ', '\t', '\n', '\r', ',', ':', ']', '\x7d']

/-- No token from before goes on at the start of a text. -/
inductive StartsAfresh : List CodePoint → Prop
  | nil : StartsAfresh []
  | cons {character : Char} (ends : character ∈ tokenEnds) (rest : List CodePoint) :
      StartsAfresh (.scalar character :: rest)

/-- The characters that may stand between tokens. -/
def spaces : List Char := [' ', '\t', '\n', '\r']

theorem isSpacing_scalar_iff {character : Char} :
    isSpacing (.scalar character) = true ↔ character ∈ spaces := by
  simp [isSpacing, spaces, or_assoc]

theorem mem_tokenEnds_of_mem_spaces : ∀ character ∈ spaces, character ∈ tokenEnds := by
  simp [spaces, tokenEnds]

/-- What is scanned from a text that goes on behind what is known of it. -/
def extend {α : Type} (rest : List CodePoint) (scanned : α × List CodePoint) :
    α × List CodePoint :=
  (scanned.1, scanned.2 ++ rest)

@[simp]
theorem map_fst_extend {α : Type} (rest : List CodePoint)
    (scanned : Option (α × List CodePoint)) :
    (scanned.map (extend rest)).map Prod.fst = scanned.map Prod.fst := by
  cases scanned <;> rfl

@[simp]
theorem getD_map_snd_extend {α : Type} (rest points : List CodePoint)
    (scanned : Option (α × List CodePoint)) :
    ((scanned.map (extend rest)).map Prod.snd).getD (points ++ rest) =
      (scanned.map Prod.snd).getD points ++ rest := by
  cases scanned <;> rfl

theorem not_isDigit_of_mem_tokenEnds :
    ∀ character ∈ tokenEnds, character.isDigit = false := by
  simp [tokenEnds]

theorem not_mem_of_mem_tokenEnds :
    ∀ character ∈ tokenEnds, character ∉ ['0', '.', 'e', 'E', '-', '+'] := by
  simp [tokenEnds]

/-- Digits, if there are any, and what follows them. -/
def someDigits (spanned : List Char × List CodePoint) : Option (List Char × List CodePoint) :=
  if spanned.1 = [] then none else some spanned

theorem someDigits_extend (rest : List CodePoint) (spanned : List Char × List CodePoint) :
    someDigits (extend rest spanned) = (someDigits spanned).map (extend rest) := by
  rw [someDigits, someDigits, extend]
  split <;> rfl

theorem scanWhole_of_head?_ne {points : List CodePoint}
    (no_zero : points.head? ≠ some (.scalar '0')) :
    scanWhole points = someDigits (spanDigits points) := by
  fun_cases scanWhole points with
  | case1 rest => simp at no_zero
  | case2 _ _ after spanned => simp [spanned, someDigits]
  | case3 _ _ digits after some_digit spanned =>
      rw [spanned, someDigits, if_neg]
      rintro rfl
      exact some_digit rfl

theorem scanFraction_point (points : List CodePoint) :
    scanFraction (.scalar '.' :: points) = someDigits (spanDigits points) := by
  rw [scanFraction]
  rcases spanDigits points with ⟨_ | ⟨digit, digits⟩, after⟩ <;> rfl

theorem scanFraction_of_head?_ne {points : List CodePoint}
    (no_point : points.head? ≠ some (.scalar '.')) : scanFraction points = none := by
  fun_cases scanFraction points with
  | case1 rest after spanned => simp at no_point
  | case2 rest digits after some_digit spanned => simp at no_point
  | case3 points others => rfl

/-- Whether there is a minus sign, and what follows the sign. -/
def spanSign : List CodePoint → Bool × List CodePoint
  | .scalar '-' :: rest => (true, rest)
  | .scalar '+' :: rest => (false, rest)
  | rest => (false, rest)

/-- The exponent that digits denote behind a sign. -/
def signedExponent (negative : Bool) (spanned : List Char × List CodePoint) :
    Int × List CodePoint :=
  (if negative then -(digitsValue spanned.1 : Int) else digitsValue spanned.1, spanned.2)

theorem scanExponent_mark {mark : Char} (is_mark : mark = 'e' ∨ mark = 'E')
    (points : List CodePoint) :
    scanExponent (.scalar mark :: points) =
      (someDigits (spanDigits (spanSign points).2)).map (signedExponent (spanSign points).1) := by
  refine (if_pos is_mark).trans ?_
  split
  · rename_i digits after spanned
    have no_digits : spanDigits (spanSign points).2 = ([], after) := spanned
    rw [no_digits]
    rfl
  · rename_i result digits after some_digit spanned
    have digits_eq : spanDigits (spanSign points).2 = (digits, after) := spanned
    rw [digits_eq, someDigits, if_neg some_digit]
    rfl

theorem scanExponent_of_no_mark {points : List CodePoint}
    (no_mark : ∀ mark, points.head? = some (.scalar mark) → ¬(mark = 'e' ∨ mark = 'E')) :
    scanExponent points = none := by
  rcases points with _ | ⟨mark | offset, points⟩
  · rfl
  · exact if_neg (no_mark mark rfl)
  · rfl

/-! ## Scanning further -/

section Extension

variable {rest : List CodePoint} (afresh : StartsAfresh rest)

include afresh

theorem head?_ne_of_startsAfresh {character : Char}
    (goes_on : character ∈ ['0', '.', 'e', 'E', '-', '+']) :
    rest.head? ≠ some (.scalar character) := by
  cases afresh with
  | nil => simp
  | cons ends rest =>
      rintro ⟨⟩
      exact not_mem_of_mem_tokenEnds _ ends goes_on

theorem spanDigits_of_startsAfresh : spanDigits rest = ([], rest) := by
  cases afresh with
  | nil => rfl
  | cons ends rest => simp [spanDigits, not_isDigit_of_mem_tokenEnds _ ends]

theorem spanDigits_append (points : List CodePoint) :
    spanDigits (points ++ rest) = extend rest (spanDigits points) := by
  induction points with
  | nil => exact spanDigits_of_startsAfresh afresh
  | cons point points induction =>
      cases point with
      | surrogate offset => rfl
      | scalar character =>
          rw [List.cons_append, spanDigits, spanDigits, induction]
          split <;> rfl

/-- What a text does not start with, it does not start with when it goes on. -/
theorem head?_append_ne {character : Char}
    (goes_on : character ∈ ['0', '.', 'e', 'E', '-', '+']) {points : List CodePoint}
    (other : points.head? ≠ some (.scalar character)) :
    (points ++ rest).head? ≠ some (.scalar character) := by
  cases points with
  | nil => exact head?_ne_of_startsAfresh afresh goes_on
  | cons point points => exact other

theorem scanWhole_append (points : List CodePoint) :
    scanWhole (points ++ rest) = (scanWhole points).map (extend rest) := by
  by_cases zero : points.head? = some (.scalar '0')
  · obtain ⟨others, rfl⟩ := List.head?_eq_some_iff.mp zero
    rfl
  · rw [scanWhole_of_head?_ne zero, scanWhole_of_head?_ne (head?_append_ne afresh (by simp) zero),
      spanDigits_append afresh, someDigits_extend]

theorem scanFraction_append (points : List CodePoint) :
    scanFraction (points ++ rest) = (scanFraction points).map (extend rest) := by
  by_cases starts : points.head? = some (.scalar '.')
  · obtain ⟨others, rfl⟩ := List.head?_eq_some_iff.mp starts
    rw [List.cons_append, scanFraction_point, scanFraction_point, spanDigits_append afresh,
      someDigits_extend]
  · rw [scanFraction_of_head?_ne starts,
      scanFraction_of_head?_ne (head?_append_ne afresh (by simp) starts)]
    rfl

theorem spanSign_of_startsAfresh : spanSign rest = (false, rest) := by
  cases afresh with
  | nil => rfl
  | cons ends rest =>
      revert ends
      simp only [tokenEnds, List.mem_cons]
      rintro (rfl | rfl | rfl | rfl | rfl | rfl | rfl | rfl | ⟨⟨⟩⟩) <;> rfl

theorem spanSign_append (points : List CodePoint) :
    spanSign (points ++ rest) = extend rest (spanSign points) := by
  fun_cases spanSign points with
  | case1 points => rfl
  | case2 points => rfl
  | case3 points no_minus no_plus =>
      cases points with
      | nil => exact spanSign_of_startsAfresh afresh
      | cons point points =>
          rw [List.cons_append, spanSign]
          · rfl
          · rintro others ⟨⟩
            exact no_minus points rfl
          · rintro others ⟨⟩
            exact no_plus points rfl

theorem scanExponent_append (points : List CodePoint) :
    scanExponent (points ++ rest) = (scanExponent points).map (extend rest) := by
  by_cases starts : ∃ mark, points.head? = some (.scalar mark) ∧ (mark = 'e' ∨ mark = 'E')
  · obtain ⟨mark, head_eq, is_mark⟩ := starts
    obtain ⟨others, rfl⟩ := List.head?_eq_some_iff.mp head_eq
    rw [List.cons_append, scanExponent_mark is_mark, scanExponent_mark is_mark,
      spanSign_append afresh, extend, spanDigits_append afresh, someDigits_extend]
    cases someDigits (spanDigits (spanSign others).2) <;> rfl
  · have no_mark : ∀ mark, points.head? = some (.scalar mark) → ¬(mark = 'e' ∨ mark = 'E') :=
      fun mark head_eq is_mark => starts ⟨mark, head_eq, is_mark⟩
    rw [scanExponent_of_no_mark no_mark, scanExponent_of_no_mark]
    · rfl
    · rintro mark head_eq (rfl | rfl)
      · exact head?_append_ne afresh (by simp) (fun head => no_mark _ head (.inl rfl)) head_eq
      · exact head?_append_ne afresh (by simp) (fun head => no_mark _ head (.inr rfl)) head_eq

theorem scanNumber_append (negative : Bool) (points : List CodePoint) :
    scanNumber negative (points ++ rest) = (scanNumber negative points).map (extend rest) := by
  rw [scanNumber, scanNumber, scanWhole_append afresh]
  cases scanWhole points with
  | none => rfl
  | some scanned =>
      obtain ⟨whole, behind⟩ := scanned
      simp only [Option.map_some, extend, scanFraction_append afresh, getD_map_snd_extend,
        map_fst_extend, scanExponent_append afresh, Option.isNone_map]
      split <;> rfl

theorem isPrefixOf?_codePoints_append {characters : List Char}
    (within : ∀ character ∈ characters, character ∉ tokenEnds) (points : List CodePoint) :
    (codePoints characters).isPrefixOf? (points ++ rest) =
      ((codePoints characters).isPrefixOf? points).map (· ++ rest) := by
  induction characters generalizing points with
  | nil => cases points <;> rfl
  | cons character characters induction =>
      have others := fun other mem => within other (List.mem_cons_of_mem character mem)
      cases points with
      | cons point points =>
          simp only [codePoints, List.map_cons, List.cons_append, List.isPrefixOf?]
          split
          · exact induction others points
          · rfl
      | nil =>
          cases afresh with
          | nil => rfl
          | @cons first ends rest =>
              have other : character ≠ first := by
                rintro rfl
                exact within _ (List.mem_cons_self ..) ends
              simp [codePoints, List.isPrefixOf?, other]

theorem scanConstant_append (points : List CodePoint) :
    scanConstant (points ++ rest) = (scanConstant points).map (extend rest) := by
  have words_within : ∀ constant ∈ constants, ∀ character ∈ constant.1.toList,
      character ∉ tokenEnds := by
    simp [constants, tokenEnds]
  rw [scanConstant, scanConstant]
  generalize constants = table at words_within
  induction table with
  | nil => rfl
  | cons constant others induction =>
      have dropped := isPrefixOf?_codePoints_append afresh (words_within constant (List.mem_cons_self ..)) points
      simp only [List.findSome?_cons, dropWord?, dropped]
      cases (codePoints constant.1.toList).isPrefixOf? points with
      | none => exact induction fun other mem => words_within other (List.mem_cons_of_mem _ mem)
      | some behind => rfl

end Extension

/-! ## Strings -/

/-- One more piece before those that have been scanned. -/
def prepend (piece : Piece) (scanned : List Piece × List CodePoint) :
    List Piece × List CodePoint :=
  (piece :: scanned.1, scanned.2)

theorem scanPieces_unit {first second third fourth : CodePoint} {code : Nat}
    (unit_eq : hexUnit? first second third fourth = some code) (rest : List CodePoint) :
    scanPieces (.scalar '\\' :: .scalar 'u' :: first :: second :: third :: fourth :: rest) =
      (scanPieces rest).map (prepend (.unit code)) := by
  simp only [scanPieces, unit_eq]
  rfl

theorem scanPieces_escape {letter character : Char} (escape_eq : escaped? letter = some character)
    (rest : List CodePoint) :
    scanPieces (.scalar '\\' :: .scalar letter :: rest) =
      (scanPieces rest).map (prepend (.plain (.scalar character))) := by
  have no_unit : letter ≠ 'u' := by
    rintro rfl
    cases escape_eq
  rw [scanPieces]
  · simp only [escape_eq]
    rfl
  · exact fun _ _ _ _ _ _ letter_eq => no_unit letter_eq

theorem scanPieces_plain {character : Char} (no_quote : character ≠ '"')
    (allowed : ¬(character = '\\' ∨ character.toNat < 0x20)) (rest : List CodePoint) :
    scanPieces (.scalar character :: rest) =
      (scanPieces rest).map (prepend (.plain (.scalar character))) := by
  rw [scanPieces]
  · rw [if_neg allowed]
    rfl
  · exact fun _ _ _ _ _ _ escapes => allowed (.inl escapes)
  · exact fun _ _ _ escapes => allowed (.inl escapes)
  · exact no_quote

/-- A string that is scanned to its end is scanned so in a text that goes on behind it. -/
theorem scanPieces_append {points : List CodePoint} {scanned : List Piece × List CodePoint}
    (complete : scanPieces points = some scanned) (rest : List CodePoint) :
    scanPieces (points ++ rest) = some (extend rest scanned) := by
  fun_induction scanPieces points generalizing scanned with
  | case1 => cases complete
  | case2 first second third fourth others code unit_eq induction =>
      obtain ⟨inner, inner_eq, rfl⟩ := Option.map_eq_some_iff.mp complete
      simp only [List.cons_append, scanPieces_unit unit_eq, induction inner_eq]
      rfl
  | case3 => cases complete
  | case4 letter others no_unit character escape_eq induction =>
      obtain ⟨inner, inner_eq, rfl⟩ := Option.map_eq_some_iff.mp complete
      simp only [List.cons_append, scanPieces_escape escape_eq, induction inner_eq]
      rfl
  | case5 others =>
      obtain rfl := Option.some.inj complete
      rfl
  | case6 => cases complete
  | case7 character others no_unit no_escape no_quote allowed induction =>
      obtain ⟨inner, inner_eq, rfl⟩ := Option.map_eq_some_iff.mp complete
      simp only [List.cons_append, scanPieces_plain no_quote allowed, induction inner_eq]
      rfl
  | case8 offset others induction =>
      obtain ⟨inner, inner_eq, rfl⟩ := Option.map_eq_some_iff.mp complete
      simp only [List.cons_append, scanPieces, induction inner_eq]
      rfl
  | case9 => cases complete

/-! ## Progress -/

theorem length_spanDigits (points : List CodePoint) :
    (spanDigits points).1.length + (spanDigits points).2.length = points.length := by
  fun_induction spanDigits points with
  | case1 character rest is_digit digits after spanned induction =>
      rw [spanned] at induction
      simpa [Nat.add_right_comm] using induction
  | case2 character rest no_digit => simp
  | case3 points others => simp

theorem length_of_someDigits {spanned scanned : List Char × List CodePoint}
    (found : someDigits spanned = some scanned) :
    scanned = spanned ∧ 0 < spanned.1.length := by
  rw [someDigits] at found
  split at found
  · cases found
  · rename_i some_digit
    exact ⟨(Option.some.inj found).symm, List.length_pos_iff.mpr some_digit⟩

theorem length_of_scanWhole {points : List CodePoint} {scanned : List Char × List CodePoint}
    (found : scanWhole points = some scanned) : scanned.2.length < points.length := by
  by_cases zero : points.head? = some (.scalar '0')
  · obtain ⟨others, rfl⟩ := List.head?_eq_some_iff.mp zero
    obtain rfl := Option.some.inj found
    simp
  · rw [scanWhole_of_head?_ne zero] at found
    obtain ⟨rfl, some_digit⟩ := length_of_someDigits found
    have spanned := length_spanDigits points
    omega

theorem length_of_scanFraction {points : List CodePoint} {scanned : List Char × List CodePoint}
    (found : scanFraction points = some scanned) : scanned.2.length ≤ points.length := by
  by_cases starts : points.head? = some (.scalar '.')
  · obtain ⟨others, rfl⟩ := List.head?_eq_some_iff.mp starts
    rw [scanFraction_point] at found
    obtain ⟨rfl, -⟩ := length_of_someDigits found
    have spanned := length_spanDigits others
    simp only [List.length_cons]
    omega
  · rw [scanFraction_of_head?_ne starts] at found
    cases found

theorem length_spanSign (points : List CodePoint) :
    (spanSign points).2.length ≤ points.length := by
  fun_cases spanSign points <;> simp

theorem length_of_scanExponent {points : List CodePoint} {scanned : Int × List CodePoint}
    (found : scanExponent points = some scanned) : scanned.2.length ≤ points.length := by
  by_cases starts : ∃ mark, points.head? = some (.scalar mark) ∧ (mark = 'e' ∨ mark = 'E')
  · obtain ⟨mark, head_eq, is_mark⟩ := starts
    obtain ⟨others, rfl⟩ := List.head?_eq_some_iff.mp head_eq
    rw [scanExponent_mark is_mark] at found
    obtain ⟨digits, digits_eq, rfl⟩ := Option.map_eq_some_iff.mp found
    obtain ⟨rfl, -⟩ := length_of_someDigits digits_eq
    have spanned := length_spanDigits (spanSign others).2
    have signed := length_spanSign others
    simp only [signedExponent, List.length_cons]
    omega
  · rw [scanExponent_of_no_mark fun mark head_eq is_mark => starts ⟨mark, head_eq, is_mark⟩] at found
    cases found

theorem length_getD_map_snd_le {α : Type} {scan : List CodePoint → Option (α × List CodePoint)}
    {points : List CodePoint} (shorter : ∀ scanned, scan points = some scanned →
      scanned.2.length ≤ points.length) :
    (((scan points).map Prod.snd).getD points).length ≤ points.length := by
  cases found : scan points with
  | none => exact Nat.le_refl _
  | some scanned => exact shorter scanned found

theorem length_of_scanNumber {negative : Bool} {points : List CodePoint}
    {scanned : Token × List CodePoint} (found : scanNumber negative points = some scanned) :
    scanned.2.length < points.length := by
  rw [scanNumber] at found
  split at found
  · cases found
  · rename_i whole behind whole_eq
    dsimp only at found
    have behind_whole : behind.length < points.length := length_of_scanWhole whole_eq
    have behind_fraction : (((scanFraction behind).map Prod.snd).getD behind).length ≤ _ :=
      length_getD_map_snd_le fun _ => length_of_scanFraction
    generalize ((scanFraction behind).map Prod.snd).getD behind = middle at found behind_fraction
    have behind_exponent : (((scanExponent middle).map Prod.snd).getD middle).length ≤ _ :=
      length_getD_map_snd_le fun _ => length_of_scanExponent
    generalize ((scanExponent middle).map Prod.snd).getD middle = last at found behind_exponent
    have rest_eq : scanned.2 = last := by
      split at found <;> obtain rfl := Option.some.inj found <;> rfl
    rw [rest_eq]
    omega

theorem length_of_scanConstant {points : List CodePoint} {scanned : Token × List CodePoint}
    (found : scanConstant points = some scanned) : scanned.2.length < points.length := by
  have words_some : ∀ constant ∈ constants, 0 < constant.1.toList.length := by decide
  obtain ⟨constant, constant_mem, dropped⟩ := List.exists_of_findSome?_eq_some found
  obtain ⟨behind, behind_eq, rfl⟩ := Option.map_eq_some_iff.mp dropped
  rw [dropWord?, isPrefixOf?_eq_some_iff] at behind_eq
  subst behind_eq
  simpa [codePoints] using words_some constant constant_mem

theorem length_of_scanPieces {points : List CodePoint} {scanned : List Piece × List CodePoint}
    (complete : scanPieces points = some scanned) : scanned.2.length < points.length := by
  fun_induction scanPieces points generalizing scanned with
  | case1 | case3 | case6 | case9 => cases complete
  | case2 first second third fourth others code unit_eq induction =>
      obtain ⟨inner, inner_eq, rfl⟩ := Option.map_eq_some_iff.mp complete
      have shorter := induction inner_eq
      simp only [List.length_cons]
      omega
  | case4 letter others no_unit character escape_eq induction =>
      obtain ⟨inner, inner_eq, rfl⟩ := Option.map_eq_some_iff.mp complete
      have shorter := induction inner_eq
      simp only [List.length_cons]
      omega
  | case5 others =>
      obtain rfl := Option.some.inj complete
      exact Nat.lt_succ_self _
  | case7 character others no_unit no_escape no_quote allowed induction =>
      obtain ⟨inner, inner_eq, rfl⟩ := Option.map_eq_some_iff.mp complete
      have shorter := induction inner_eq
      exact Nat.lt_succ_of_lt shorter
  | case8 offset others induction =>
      obtain ⟨inner, inner_eq, rfl⟩ := Option.map_eq_some_iff.mp complete
      have shorter := induction inner_eq
      exact Nat.lt_succ_of_lt shorter

theorem length_of_scanToken {point : CodePoint} {points : List CodePoint}
    {scanned : Token × List CodePoint} (found : scanToken point points = some scanned) :
    scanned.2.length < (point :: points).length := by
  fun_cases scanToken point points with
  | case1 => cases found
  | case2 | case3 | case4 | case5 | case6 | case7 =>
      obtain rfl := Option.some.inj found
      exact Nat.lt_succ_self _
  | case8 =>
      obtain ⟨inner, inner_eq, rfl⟩ := Option.map_eq_some_iff.mp found
      exact Nat.lt_succ_of_lt (length_of_scanPieces inner_eq)
  | case9 =>
      rcases Option.or_eq_some_iff.mp found with number | ⟨-, constant⟩
      · exact Nat.lt_succ_of_lt (length_of_scanNumber number)
      · exact length_of_scanConstant constant
  | case10 character =>
      rw [scanToken] at found
      · rcases Option.or_eq_some_iff.mp found with number | ⟨-, constant⟩
        · exact length_of_scanNumber number
        · exact length_of_scanConstant constant
      all_goals assumption

end DiffReview.Json
