import DiffReview.Proofs.Json.Scanning

/-!
# Tokens of a part of a text

A part that is followed by a separator, a closing bracket or a space is cut into tokens as it would
be alone: none of its tokens goes on behind its end.
-/

namespace DiffReview.Json

open Text

theorem or_map_extend (rest : List CodePoint) (number constant : Option (Token × List CodePoint)) :
    (number.map (extend rest)).or (constant.map (extend rest)) =
      (number.or constant).map (extend rest) := by
  cases number <;> rfl

theorem scanToken_append {point : CodePoint} {points : List CodePoint}
    {scanned : Token × List CodePoint} (found : scanToken point points = some scanned)
    {rest : List CodePoint} (afresh : StartsAfresh rest) :
    scanToken point (points ++ rest) = some (extend rest scanned) := by
  fun_cases scanToken point points with
  | case1 => cases found
  | case2 | case3 | case4 | case5 | case6 | case7 =>
      obtain rfl := Option.some.inj found
      rfl
  | case8 =>
      obtain ⟨inner, inner_eq, rfl⟩ := Option.map_eq_some_iff.mp found
      exact Option.map_eq_some_iff.mpr ⟨_, scanPieces_append inner_eq rest, rfl⟩
  | case9 =>
      have number := scanNumber_append afresh true points
      have constant := scanConstant_append afresh (.scalar '-' :: points)
      rw [List.cons_append] at constant
      rw [scanToken, number, constant, or_map_extend]
      exact Option.map_eq_some_iff.mpr ⟨scanned, found, rfl⟩
  | case10 character =>
      have number := scanNumber_append afresh false (.scalar character :: points)
      have constant := scanConstant_append afresh (.scalar character :: points)
      rw [List.cons_append] at number constant
      rw [scanToken] at found ⊢
      · rw [number, constant, or_map_extend]
        exact Option.map_eq_some_iff.mpr ⟨scanned, found, rfl⟩
      all_goals assumption

theorem tokensWithin_nil (fuel : Nat) : tokensWithin fuel [] = [] := by
  cases fuel <;> rfl

/-- As much fuel as there are code points is enough. -/
theorem tokensWithin_congr {fuel other : Nat} {points : List CodePoint}
    (enough : points.length ≤ fuel) (other_enough : points.length ≤ other) :
    tokensWithin fuel points = tokensWithin other points := by
  induction fuel generalizing other points with
  | zero =>
      obtain rfl := List.length_eq_zero_iff.mp (Nat.le_zero.mp enough)
      rw [tokensWithin_nil, tokensWithin_nil]
  | succ fuel induction =>
      cases points with
      | nil => rw [tokensWithin_nil, tokensWithin_nil]
      | cons point points =>
          obtain ⟨other, rfl⟩ := Nat.exists_eq_add_one_of_ne_zero (Nat.ne_zero_of_lt other_enough)
          rw [tokensWithin, tokensWithin]
          split
          · exact induction (Nat.le_of_succ_le_succ enough) (Nat.le_of_succ_le_succ other_enough)
          · split
            · rfl
            · rename_i token after scanned
              have shorter : after.length ≤ points.length :=
                Nat.le_of_lt_succ (length_of_scanToken scanned)
              rw [induction (shorter.trans (Nat.le_of_succ_le_succ enough))
                (shorter.trans (Nat.le_of_succ_le_succ other_enough))]

@[simp]
theorem tokens_nil : tokens [] = [] := rfl

theorem tokens_cons_of_isSpacing {point : CodePoint} (spacing : isSpacing point = true)
    (points : List CodePoint) : tokens (point :: points) = tokens points := by
  rw [tokens, List.length_cons, tokensWithin, if_pos spacing]
  rfl

theorem tokens_cons_of_scanToken {point : CodePoint} (solid : isSpacing point = false)
    {points after : List CodePoint} {token : Token}
    (scanned : scanToken point points = some (token, after)) :
    tokens (point :: points) = token :: tokens after := by
  rw [tokens, List.length_cons, tokensWithin, if_neg (by simp [solid]), scanned]
  exact congrArg _ (tokensWithin_congr (Nat.le_of_lt_succ (length_of_scanToken scanned)) le_rfl)

theorem tokens_cons_of_none {point : CodePoint} (solid : isSpacing point = false)
    {points : List CodePoint} (scanned : scanToken point points = none) :
    tokens (point :: points) = [.invalid] := by
  rw [tokens, List.length_cons, tokensWithin, if_neg (by simp [solid]), scanned]

theorem tokens_replicate_openArray (count : Nat) :
    tokens (List.replicate count (.scalar '[')) = List.replicate count .openArray := by
  induction count with
  | zero => rfl
  | succ count induction =>
      rw [List.replicate_succ, List.replicate_succ, ← induction]
      exact tokens_cons_of_scanToken rfl rfl

/-- A part without invalid tokens is cut as it is alone if what follows it starts afresh. -/
theorem tokens_append {points rest : List CodePoint} (valid : Token.invalid ∉ tokens points)
    (afresh : StartsAfresh rest) : tokens (points ++ rest) = tokens points ++ tokens rest := by
  induction length_eq : points.length using Nat.strong_induction_on generalizing points with
  | _ length induction =>
      cases points with
      | nil => rfl
      | cons point points =>
          cases spacing : isSpacing point with
          | true =>
              rw [List.cons_append, tokens_cons_of_isSpacing spacing,
                tokens_cons_of_isSpacing spacing]
              rw [tokens_cons_of_isSpacing spacing] at valid
              exact induction _ (by simp [← length_eq]) valid rfl
          | false =>
              cases scanned : scanToken point points with
              | none => simp [tokens_cons_of_none spacing scanned] at valid
              | some found =>
                  obtain ⟨token, after⟩ := found
                  have shorter := length_of_scanToken scanned
                  rw [tokens_cons_of_scanToken spacing scanned] at valid ⊢
                  rw [List.cons_append,
                    tokens_cons_of_scanToken spacing (scanToken_append scanned afresh)]
                  have others := induction after.length (by simpa [← length_eq] using shorter)
                    (fun mem => valid (List.mem_cons_of_mem _ mem)) rfl
                  exact congrArg (token :: ·) others

end DiffReview.Json
