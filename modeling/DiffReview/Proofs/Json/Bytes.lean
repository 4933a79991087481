import DiffReview.Json.Bytes
import DiffReview.Proofs.Json.Reading
import DiffReview.Proofs.Json.Token
import DiffReview.Proofs.Text.Utf8

/-!
# JSON text as UTF-8

Text that denotes a value starts with an ASCII character, and neither that one nor the next one is
the null character.  So its bytes in UTF-8 are not taken for any other encoding, and they denote the
same value.
-/

namespace DiffReview.Json

open Text

/-! ## The first characters -/

theorem scanNumber_of_not_isDigit {character : Char} (no_digit : character.isDigit = false)
    (negative : Bool) (points : List CodePoint) :
    scanNumber negative (.scalar character :: points) = none := by
  have no_zero : (CodePoint.scalar character :: points).head? ≠ some (.scalar '0') := by
    rintro ⟨⟩
    cases no_digit
  have no_digits : spanDigits (.scalar character :: points) =
      ([], .scalar character :: points) := by
    rw [spanDigits, if_neg (by simp [no_digit])]
  rw [scanNumber, scanWhole_of_head?_ne no_zero, no_digits]
  rfl

theorem toNat_of_scanConstant {character : Char} {points : List CodePoint}
    {scanned : Token × List CodePoint}
    (found : scanConstant (.scalar character :: points) = some scanned) :
    0 < character.toNat ∧ character.toNat < 0x80 := by
  have all_ascii : ∀ constant ∈ constants, constant.1.toList ≠ [] ∧
      ∀ letter ∈ constant.1.toList, 0 < letter.toNat ∧ letter.toNat < 0x80 := by
    simp [constants]
  obtain ⟨constant, constant_mem, dropped⟩ := List.exists_of_findSome?_eq_some found
  obtain ⟨behind, behind_eq, -⟩ := Option.map_eq_some_iff.mp dropped
  rw [dropWord?, isPrefixOf?_eq_some_iff] at behind_eq
  obtain ⟨some_letter, letters_ascii⟩ := all_ascii constant constant_mem
  obtain ⟨letter, letters, word_eq⟩ := List.exists_cons_of_ne_nil some_letter
  rw [word_eq, codePoints_cons, List.cons_append] at behind_eq
  obtain ⟨first_eq, -⟩ := List.cons.inj behind_eq
  rw [CodePoint.scalar.inj first_eq]
  exact letters_ascii letter (word_eq ▸ List.mem_cons_self)

theorem toNat_of_isDigit {character : Char} (is_digit : character.isDigit = true) :
    0 < character.toNat ∧ character.toNat < 0x80 := by
  obtain ⟨least, greatest⟩ := Bool.and_eq_true_iff.mp is_digit
  have least : 0x30 ≤ character.toNat := of_decide_eq_true least
  have greatest : character.toNat ≤ 0x39 := of_decide_eq_true greatest
  omega

theorem toNat_of_scanNumber_or_scanConstant {negative : Bool} {character : Char}
    {points : List CodePoint} {scanned : Token × List CodePoint}
    (found : (scanNumber negative (.scalar character :: points)).or
      (scanConstant (.scalar character :: points)) = some scanned) :
    0 < character.toNat ∧ character.toNat < 0x80 := by
  rcases Option.or_eq_some_iff.mp found with number | ⟨-, constant⟩
  · cases is_digit : character.isDigit with
    | true => exact toNat_of_isDigit is_digit
    | false => cases (scanNumber_of_not_isDigit is_digit negative points).symm.trans number
  · exact toNat_of_scanConstant constant

/-- A character that starts a token is ASCII, and it is not the null character. -/
theorem exists_scalar_of_scanToken {point : CodePoint} {points : List CodePoint}
    {scanned : Token × List CodePoint} (found : scanToken point points = some scanned) :
    ∃ character, point = .scalar character ∧ 0 < character.toNat ∧ character.toNat < 0x80 := by
  fun_cases scanToken point points with
  | case1 => cases found
  | case2 | case3 | case4 | case5 | case6 | case7 | case8 | case9 =>
      exact ⟨_, rfl, by decide⟩
  | case10 character =>
      rw [scanToken] at found
      · exact ⟨character, rfl, toNat_of_scanNumber_or_scanConstant found⟩
      all_goals assumption

theorem tokens_nul (points : List CodePoint) :
    tokens (.scalar '\x00' :: points) = [.invalid] := by
  refine tokens_cons_of_none rfl (Option.eq_none_iff_forall_ne_some.mpr fun scanned found => ?_)
  obtain ⟨character, point_eq, positive, -⟩ := exists_scalar_of_scanToken found
  obtain rfl := CodePoint.scalar.inj point_eq
  cases positive

theorem scanConstant_nul (point : CodePoint) (points : List CodePoint) :
    scanConstant (point :: .scalar '\x00' :: points) = none := by
  simp [scanConstant, constants, dropWord?, codePoints, List.isPrefixOf?]

theorem scanNumber_nul {digit : Char} (is_digit : digit.isDigit = true) (negative : Bool)
    (points : List CodePoint) :
    scanNumber negative (.scalar digit :: .scalar '\x00' :: points) =
      some (.integer negative [digit], .scalar '\x00' :: points) := by
  have whole : scanWhole (.scalar digit :: .scalar '\x00' :: points) =
      some ([digit], .scalar '\x00' :: points) := by
    by_cases zero : digit = '0'
    · rw [zero]
      rfl
    · rw [scanWhole_of_head?_ne (by simpa using zero), spanDigits, if_pos is_digit]
      rfl
  have no_fraction : scanFraction (.scalar '\x00' :: points) = none :=
    scanFraction_of_head?_ne (by simp)
  have no_exponent : scanExponent (.scalar '\x00' :: points) = none :=
    scanExponent_of_no_mark (by simp)
  simp [scanNumber, whole, no_fraction, no_exponent]

/-- A null character that comes second is no part of a token. -/
theorem snd_of_scanToken_nul {point : CodePoint} {points : List CodePoint}
    {scanned : Token × List CodePoint}
    (found : scanToken point (.scalar '\x00' :: points) = some scanned) :
    scanned.2 = .scalar '\x00' :: points := by
  fun_cases scanToken point (.scalar '\x00' :: points) with
  | case1 => cases found
  | case2 | case3 | case4 | case5 | case6 | case7 =>
      obtain rfl := Option.some.inj found
      rfl
  | case8 => cases found
  | case9 =>
      rw [scanToken, scanNumber_of_not_isDigit rfl, scanConstant_nul] at found
      cases found
  | case10 character =>
      rw [scanToken, scanConstant_nul, Option.or_none] at found
      · cases is_digit : character.isDigit with
        | true =>
            rw [scanNumber_nul is_digit] at found
            obtain rfl := Option.some.inj found
            rfl
        | false => cases (scanNumber_of_not_isDigit is_digit false _).symm.trans found
      all_goals assumption

theorem invalid_mem_tokens_of_nul (point : CodePoint) (points : List CodePoint) :
    Token.invalid ∈ tokens (point :: .scalar '\x00' :: points) := by
  cases spacing : isSpacing point with
  | true =>
      rw [tokens_cons_of_isSpacing spacing, tokens_nul]
      exact List.mem_singleton_self _
  | false =>
      cases found : scanToken point (.scalar '\x00' :: points) with
      | none =>
          rw [tokens_cons_of_none spacing found]
          exact List.mem_singleton_self _
      | some scanned =>
          obtain ⟨token, after⟩ := scanned
          obtain rfl : after = _ := snd_of_scanToken_nul found
          rw [tokens_cons_of_scanToken spacing found, tokens_nul]
          exact List.mem_cons_of_mem _ (List.mem_singleton_self _)

/-- The first character of a text that denotes a value is ASCII, and neither it nor the second one
is the null character. -/
theorem exists_cons_of_read {nesting : Nat} {text : List Char} {value : Json}
    (accepted : read nesting (codePoints text) = .ok value) :
    ∃ character others, text = character :: others ∧ 0 < character.toNat ∧
      character.toNat < 0x80 ∧ others.head? ≠ some '\x00' := by
  have valid := not_mem_invalid_of_read accepted
  cases text with
  | nil => cases accepted
  | cons character others =>
      have ascii : 0 < character.toNat ∧ character.toNat < 0x80 := by
        cases spacing : isSpacing (.scalar character) with
        | true =>
            have spaces_ascii : ∀ space ∈ spaces, 0 < space.toNat ∧ space.toNat < 0x80 := by
              simp [spaces]
            exact spaces_ascii character (isSpacing_scalar_iff.mp spacing)
        | false =>
            cases found : scanToken (.scalar character) (codePoints others) with
            | none =>
                rw [codePoints_cons, tokens_cons_of_none spacing found] at valid
                exact absurd (List.mem_singleton_self _) valid
            | some scanned =>
                obtain ⟨same, point_eq, ascii⟩ := exists_scalar_of_scanToken found
                rwa [CodePoint.scalar.inj point_eq]
      refine ⟨character, others, rfl, ascii.1, ascii.2, fun zero => ?_⟩
      obtain ⟨behind, rfl⟩ := List.head?_eq_some_iff.mp zero
      exact valid (invalid_mem_tokens_of_nul _ _)

/-! ## Bytes -/

theorem detectEncoding_of_ascii {first : UInt8} {others : Bytes} (positive : 0 < first.toNat)
    (ascii : first.toNat < 0x80) (no_zero : others.head? ≠ some 0) :
    detectEncoding (first :: others) = (.utf8, first :: others) := by
  have first_ne : 0 ≠ first ∧ 0xEF ≠ first ∧ 0xFE ≠ first ∧ 0xFF ≠ first := by
    refine ⟨?_, ?_, ?_, ?_⟩ <;> rintro rfl <;> contradiction
  have guessed : guessEncoding (first :: others) = .utf8 := by
    rcases others with _ | ⟨second, _ | ⟨third, _ | ⟨fourth, behind⟩⟩⟩
    · rfl
    · have second_ne : second ≠ 0 := fun zero => no_zero (congrArg some zero)
      simp [guessEncoding, first_ne.1.symm, second_ne]
    · rfl
    · have second_ne : second ≠ 0 := fun zero => no_zero (congrArg some zero)
      simp [guessEncoding, first_ne.1.symm, second_ne]
  simp [detectEncoding, byteOrderMarks, List.isPrefixOf?, first_ne, guessed]

/-- The bytes of a text denote the value that the text denotes. -/
theorem readBytes_encodeUtf8 {nesting : Nat} {text : List Char} {value : Json}
    (accepted : read nesting (codePoints text) = .ok value) :
    readBytes nesting (encodeUtf8 (String.ofList text)) = .ok value := by
  have detected : detectEncoding (encodeUtf8 (String.ofList text)) =
      (.utf8, encodeUtf8 (String.ofList text)) := by
    obtain ⟨character, others, rfl, positive, ascii, no_zero⟩ := exists_cons_of_read accepted
    have toNat_eq := toNat_ofNat_of_lt (ascii.trans (by decide))
    rw [encodeUtf8_ofList, List.flatMap_cons, utf8EncodeChar_of_ascii ascii, List.singleton_append]
    refine detectEncoding_of_ascii (by rwa [toNat_eq]) (by rwa [toNat_eq]) ?_
    cases others with
    | nil => exact nofun
    | cons second behind =>
        obtain ⟨byte, bytes, bytes_eq, zero⟩ := exists_utf8EncodeChar_eq_cons second
        rw [List.flatMap_cons, bytes_eq]
        intro head_eq
        exact no_zero (congrArg some (zero (Option.some.inj head_eq)))
  simp only [readBytes, detected, Encoding.decode?, decodePoints?_encodeUtf8, accepted]

end DiffReview.Json
