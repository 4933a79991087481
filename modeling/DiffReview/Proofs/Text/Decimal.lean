import DiffReview.Proofs.Except
import DiffReview.Text.Decimal
import Mathlib.Data.List.Basic

/-!
# Numbers written out

The digits of a number are read back as the number, and there are no more of them than its size
calls for.
-/

namespace DiffReview.Text

theorem not_mem_toDigits {character : Char} (other : character.isDigit = false) (number : Nat) :
    character ∉ Nat.toDigits 10 number := by
  intro mem
  have digit := Nat.isDigit_of_mem_toDigits (by decide) (by decide) mem
  rw [other] at digit
  contradiction

theorem digitValue?_of_isDigit {character : Char} (digit : character.isDigit = true) :
    digitValue? character = some (character.toNat - '0'.toNat) := by
  obtain ⟨least, most⟩ := Char.isDigit_iff_toNat.mp digit
  have inside : 0x30 ≤ character.toNat ∧ character.toNat < 0x30 + 10 :=
    ⟨least, Nat.lt_succ_of_le most⟩
  rw [digitValue?, zeroDigits, List.find?_cons_of_pos (by simpa using inside)]
  rfl

theorem digitValue?_of_mem_toDigits {number : Nat} {character : Char}
    (mem : character ∈ Nat.toDigits 10 number) :
    digitValue? character = some (character.toNat - '0'.toNat) :=
  digitValue?_of_isDigit (Nat.isDigit_of_mem_toDigits (by decide) (by decide) mem)

theorem digitsValue_toDigits (number : Nat) : digitsValue (Nat.toDigits 10 number) = number := by
  calc
    digitsValue (Nat.toDigits 10 number) = Nat.ofDigitChars 10 (Nat.toDigits 10 number) 0 := by
      apply List.foldl_ext
      intro value character mem
      rw [digitValue?_of_mem_toDigits mem]
      rfl
    _ = number := Nat.ofDigitChars_ten_toDigits

theorem getD_digitValue?_lt (character : Char) : (digitValue? character).getD 0 < 10 := by
  cases found : digitValue? character with
  | none => decide
  | some value =>
      obtain ⟨first, first_eq, rfl⟩ := Option.map_eq_some_iff.mp found
      have inside := List.find?_some first_eq
      simp only [Bool.and_eq_true, decide_eq_true_eq] at inside
      rw [Option.getD_some]
      omega

/-- Each digit multiplies the bound by ten. -/
theorem foldl_digits_lt (value : Nat) (digits : List Char) :
    digits.foldl (fun value digit => 10 * value + (digitValue? digit).getD 0) value <
      (value + 1) * Nat.pow 10 digits.length := by
  induction digits generalizing value with
  | nil => exact Nat.lt_of_lt_of_eq (Nat.lt_succ_self value) (Nat.mul_one _).symm
  | cons digit digits induction =>
      have digit_lt := getD_digitValue?_lt digit
      calc
        _ < (10 * value + (digitValue? digit).getD 0 + 1) * Nat.pow 10 digits.length :=
          induction _
        _ ≤ (value + 1) * 10 * Nat.pow 10 digits.length := Nat.mul_le_mul_right _ (by omega)
        _ = (value + 1) * Nat.pow 10 (digits.length + 1) := by
          rw [Nat.mul_assoc, Nat.mul_comm 10]
          rfl

theorem digitsValue_lt (digits : List Char) : digitsValue digits < Nat.pow 10 digits.length := by
  have bound := foldl_digits_lt 0 digits
  rwa [Nat.zero_add, Nat.one_mul] at bound

theorem digitsValue_lt_of_le {digits : List Char} {most : Nat} (short : digits.length ≤ most) :
    digitsValue digits < Nat.pow 10 most :=
  Nat.lt_of_lt_of_le (digitsValue_lt digits) (Nat.pow_le_pow_right (by decide) short)

/-- What can be read can be written again. -/
theorem lt_of_readDigits {digits : List Char} {size : Nat} (read : readDigits digits = .ok size) :
    size < Nat.pow 10 maxDigits := by
  rw [readDigits] at read
  split at read
  · cases read
  · rename_i short
    obtain rfl := Except.ok.inj read
    exact digitsValue_lt_of_le (Nat.not_lt.mp short)

theorem length_toDigits_le_iff {number digits : Nat} (positive : 0 < digits) :
    (Nat.toDigits 10 number).length ≤ digits ↔ number < Nat.pow 10 digits :=
  Nat.length_toDigits_le_iff (by decide) positive

/-- A number is written if it has no more digits than a text may hold. -/
theorem writeNumber_eq_ok_iff {number : Nat} {digits : List Char} :
    writeNumber number = .ok digits ↔
      number < Nat.pow 10 maxDigits ∧ digits = Nat.toDigits 10 number := by
  rw [← length_toDigits_le_iff (by decide), writeNumber]
  split
  · rename_i too_long
    exact ⟨nofun, fun fits => absurd too_long (Nat.not_lt.mpr fits.1)⟩
  · rename_i fits
    rw [Except.ok.injEq, and_iff_right (Nat.not_lt.mp fits), eq_comm]

/-- The digits of an integer, behind a sign if it is negative. -/
def signedDigits : Int → List Char
  | .ofNat number => Nat.toDigits 10 number
  | .negSucc number => '-' :: Nat.toDigits 10 (number + 1)

theorem writeInteger_eq_ok_iff {number : Int} {digits : List Char} :
    writeInteger number = .ok digits ↔
      number.natAbs < Nat.pow 10 maxDigits ∧ digits = signedDigits number := by
  cases number with
  | ofNat number => exact writeNumber_eq_ok_iff
  | negSucc number =>
      rw [writeInteger, bind_eq_ok_iff]
      simp only [writeNumber_eq_ok_iff]
      constructor
      · rintro ⟨_, ⟨small, rfl⟩, writes⟩
        exact ⟨small, (Except.ok.inj writes).symm⟩
      · rintro ⟨small, rfl⟩
        exact ⟨_, ⟨small, rfl⟩, rfl⟩

theorem writeNumber_of_le {number : Nat} (long : Nat.pow 10 maxDigits ≤ number) :
    writeNumber number = .error .writing := by
  refine if_pos (Nat.lt_of_not_le fun fits => ?_)
  exact absurd ((length_toDigits_le_iff (by decide)).mp fits) (Nat.not_lt.mpr long)

/-- The text of an integer is its usual one. -/
theorem integerText_eq_ok_iff {number : Int} {text : String} :
    integerText number = .ok text ↔
      number.natAbs < Nat.pow 10 maxDigits ∧ text = toString number := by
  have usual : String.ofList (signedDigits number) = toString number := by
    cases number with
    | ofNat number => rfl
    | negSucc number => exact @String.ofList_append ['-'] _
  rw [← usual]
  exact map_eq_ok_iff (fun _ => writeInteger_eq_ok_iff) String.ofList text

/-- An integer that has no text has too many digits. -/
theorem integerText_eq_error_iff {number : Int} {error : DigitLimitError} :
    integerText number = .error error ↔
      Nat.pow 10 maxDigits ≤ number.natAbs ∧ error = .writing := by
  by_cases long : Nat.pow 10 maxDigits ≤ number.natAbs
  · have failed : integerText number = .error .writing := by
      cases number with
      | ofNat number =>
          have fails : writeNumber number = .error .writing := writeNumber_of_le long
          rw [integerText, writeInteger, fails]
          rfl
      | negSucc number =>
          have fails : writeNumber (number + 1) = .error .writing := writeNumber_of_le long
          rw [integerText, writeInteger, fails]
          rfl
    rw [failed, and_iff_right long, Except.error.injEq, eq_comm]
  · have written := integerText_eq_ok_iff.mpr ⟨Nat.not_le.mp long, rfl⟩
    rw [written]
    exact ⟨nofun, fun fails => absurd fails.1 long⟩

theorem pow_le_pow_maxDigits {digits : Nat} (few : digits ≤ maxDigits) :
    Nat.pow 10 digits ≤ Nat.pow 10 maxDigits := by
  have grows : ∀ most, digits ≤ most → Nat.pow 10 digits ≤ Nat.pow 10 most :=
    fun _ le => Nat.pow_le_pow_right (by decide) le
  exact grows maxDigits few

/-- Numbers below ten are far from too long. -/
theorem ten_le_pow_maxDigits : 10 ≤ Nat.pow 10 maxDigits :=
  pow_le_pow_maxDigits (by decide : 1 ≤ maxDigits)

/-- A number that is small enough is read back from its digits. -/
theorem readDigits_toDigits {number : Nat} (small : number < Nat.pow 10 maxDigits) :
    readDigits (Nat.toDigits 10 number) = .ok number := by
  rw [readDigits, if_neg (Nat.not_lt.mpr ((length_toDigits_le_iff (by decide)).mpr small)),
    digitsValue_toDigits]

/-- The digits of a number start with a zero only if there is nothing else. -/
theorem head?_toDigits_ne_zero {number : Nat} (positive : 0 < number) :
    (Nat.toDigits 10 number).head? ≠ some '0' := by
  induction number using Nat.strongRecOn with
  | ind number induction =>
      by_cases single : number < 10
      · have all : ∀ digit : Fin 10, 0 < digit.val → Nat.digitChar digit.val ≠ '0' := by decide
        rw [Nat.toDigits_of_lt_base single]
        simpa using all ⟨number, single⟩ positive
      · rw [Nat.toDigits_of_base_le (by decide) (Nat.not_lt.mp single),
          List.head?_append_of_ne_nil _ Nat.toDigits_ne_nil]
        exact induction _ (by omega) (by omega)

end DiffReview.Text
