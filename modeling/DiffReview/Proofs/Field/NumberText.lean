import DiffReview.Field.NumberText
import DiffReview.Proofs.Summary.Separated
import DiffReview.Proofs.Text.Decimal
import DiffReview.Proofs.Text.Lines

/-!
# Positive numbers in text

Each step from the text of a number to its plain digits is undone: of which texts these digits are
left when low lines, zeros, a sign and the blanks around it all are dropped.
-/

namespace DiffReview.Field

open Text

/-! ## Plain digits -/

/-- A text starts with a digit other than zero. -/
def HasLeadingDigit (text : List Char) : Prop :=
  ∃ first ∈ text.head?, isLeadingDigit first = true

/-- The plain digits of a positive number. -/
structure IsPlain (digits : List Char) : Prop where
  head : HasLeadingDigit digits
  digit : ∀ character ∈ digits, isAsciiDigit character = true

theorem IsPlain.ne_nil {digits : List Char} (plain : IsPlain digits) : digits ≠ [] := by
  rintro rfl
  obtain ⟨_, ⟨⟩, -⟩ := plain.head

theorem IsPlain.not_mem {digits : List Char} (plain : IsPlain digits) {character : Char}
    (other : isAsciiDigit character = false) : character ∉ digits := by
  intro mem
  rw [plain.digit character mem] at other
  contradiction

theorem isAsciiDigit_of_isLeadingDigit {character : Char}
    (leading : isLeadingDigit character = true) : isAsciiDigit character = true :=
  (Bool.and_eq_true_iff.mp leading).1

theorem isPlain_cons_iff {first : Char} {rest : List Char} :
    IsPlain (first :: rest) ↔
      isLeadingDigit first = true ∧ ∀ character ∈ rest, isAsciiDigit character = true := by
  constructor
  · rintro ⟨⟨_, ⟨rfl⟩, leading⟩, digit⟩
    exact ⟨leading, (List.forall_mem_cons.mp digit).2⟩
  · rintro ⟨leading, digit⟩
    exact ⟨⟨first, rfl, leading⟩,
      List.forall_mem_cons.mpr ⟨isAsciiDigit_of_isLeadingDigit leading, digit⟩⟩

theorem le_foldl_digits (value : Nat) (digits : List Char) :
    value ≤ digits.foldl (fun value digit => 10 * value + (digitValue? digit).getD 0) value := by
  induction digits generalizing value with
  | nil => exact Nat.le_refl value
  | cons digit digits induction =>
      refine Nat.le_trans ?_ (induction _)
      show value ≤ 10 * value + (digitValue? digit).getD 0
      omega

theorem digitsValue_pos {digits : List Char} (plain : IsPlain digits) : 0 < digitsValue digits := by
  cases digits with
  | nil =>
      obtain ⟨_, ⟨⟩, -⟩ := plain.head
  | cons first rest =>
      obtain ⟨leading, -⟩ := isPlain_cons_iff.mp plain
      obtain ⟨digit, not_zero⟩ := Bool.and_eq_true_iff.mp leading
      have least : '0'.toNat ≤ first.toNat := (Char.isDigit_iff_toNat.mp digit).1
      have other : first.toNat ≠ '0'.toNat := fun same => by
        simp [Char.toNat_inj.mp same] at not_zero
      refine Nat.lt_of_lt_of_le ?_ (le_foldl_digits _ rest)
      show 0 < 10 * 0 + (digitValue? first).getD 0
      rw [digitValue?_of_isDigit digit, Option.getD_some]
      omega

theorem plainNatural?_eq_some_iff {digits : List Char} {number : Nat} :
    plainNatural? digits = some number ↔
      digits = ['0'] ∧ number = 0 ∨ IsPlain digits ∧ digitsValue digits = number := by
  have other {first : Char} {rest : List Char} (not_zero : first = '0' → rest = [] → False) :
      first :: rest ≠ ['0'] := by
    intro same
    obtain ⟨rfl, rfl⟩ := List.cons.inj same
    exact not_zero rfl rfl
  fun_cases plainNatural? digits with
  | case1 =>
      have not_plain : ¬IsPlain ['0'] := fun plain =>
        absurd (isPlain_cons_iff.mp plain).1 (by decide)
      simp [not_plain, eq_comm]
  | case2 first rest not_zero plain =>
      simp only [Bool.and_eq_true, List.all_eq_true] at plain
      simp [other not_zero, isPlain_cons_iff.mpr plain]
  | case3 first rest not_zero not_plain =>
      simp only [Bool.and_eq_true, List.all_eq_true] at not_plain
      simp [other not_zero, isPlain_cons_iff, not_plain]
  | case4 =>
      refine iff_of_false nofun ?_
      rintro (⟨⟨⟩, -⟩ | ⟨⟨⟨_, ⟨⟩, -⟩, -⟩, -⟩)

theorem plainInteger?_eq_some_iff_of_unsigned {text : List Char} (unsigned : '-' ∉ text)
    {number : Int} :
    plainInteger? text = some number ↔
      text = ['0'] ∧ number = 0 ∨ IsPlain text ∧ (digitsValue text : Int) = number := by
  fun_cases plainInteger? text with
  | case1 digits => exact absurd List.mem_cons_self unsigned
  | case2 =>
      simp only [Option.map_eq_some_iff, Option.bind_eq_bind, Option.bind_eq_some_iff,
        Option.pure_def, Option.some.injEq, plainNatural?_eq_some_iff]
      constructor
      · rintro ⟨_, ⟨size, ⟨zero, rfl⟩ | ⟨plain, rfl⟩, rfl⟩, rfl⟩
        · exact .inl ⟨zero, rfl⟩
        · exact .inr ⟨plain, rfl⟩
      · rintro (⟨zero, rfl⟩ | ⟨plain, rfl⟩)
        · exact ⟨_, ⟨0, .inl ⟨zero, rfl⟩, rfl⟩, rfl⟩
        · exact ⟨_, ⟨_, .inr ⟨plain, rfl⟩, rfl⟩, rfl⟩

theorem plainInteger?_of_isPlain {text : List Char} (plain : IsPlain text) :
    plainInteger? text = some (digitsValue text : Int) :=
  (plainInteger?_eq_some_iff_of_unsigned (plain.not_mem (by decide))).mpr (.inr ⟨plain, rfl⟩)

theorem isPlain_of_plainInteger? {text : List Char} {number : Nat} (positive : 0 < number)
    (found : plainInteger? text = some (number : Int)) :
    IsPlain text ∧ digitsValue text = number := by
  revert found
  fun_cases plainInteger? text with
  | case1 digits =>
      intro found
      simp only [Option.map_eq_some_iff, Option.bind_eq_bind, Option.bind_eq_some_iff,
        Option.pure_def, Option.some.injEq] at found
      obtain ⟨_, ⟨size, -, rfl⟩, negative⟩ := found
      omega
  | case2 =>
      simp only [Option.map_eq_some_iff, Option.bind_eq_bind, Option.bind_eq_some_iff,
        Option.pure_def, Option.some.injEq, plainNatural?_eq_some_iff]
      rintro ⟨_, ⟨size, ⟨zero, rfl⟩ | found, rfl⟩, same⟩
      · omega
      · exact ⟨found.1, found.2.trans (Int.ofNat_inj.mp same)⟩

/-! ## Low lines -/

/-- Groups of characters with a low line between any two of them. -/
def joinGroups (groups : List (List Char)) : List Char :=
  ['_'].intercalate groups

/-- Low lines are dropped from a text if plain digits are left, and each stood between two of
them. -/
theorem getD_dropLowLines?_eq_iff {text digits : List Char} (plain : IsPlain digits) :
    (dropLowLines? text).getD text = digits ↔
      ∃ groups, AreSeparable '_' groups ∧ text = joinGroups groups ∧ groups.flatten = digits := by
  constructor
  · intro dropped
    rw [dropLowLines?] at dropped
    split at dropped
    · rename_i several
      have flatten_eq : (text.splitOn '_').flatten = digits := dropped
      refine ⟨text.splitOn '_', ?_, (List.intercalate_splitOn '_').symm, flatten_eq⟩
      intro group group_mem
      refine ⟨by simpa using List.all_eq_true.mp several.2 group group_mem, ?_⟩
      intro mem
      have mem_digits : '_' ∈ digits := flatten_eq ▸ List.mem_flatten.mpr ⟨group, group_mem, mem⟩
      exact plain.not_mem (by decide) mem_digits
    · obtain rfl : text = digits := dropped
      refine ⟨[text], ?_, List.intercalate_singleton.symm, List.flatten_singleton⟩
      exact List.forall_mem_singleton.mpr ⟨plain.ne_nil, plain.not_mem (by decide)⟩
  · rintro ⟨groups, separable, rfl, rfl⟩
    have split_eq : (joinGroups groups).splitOn '_' = groups :=
      List.splitOn_intercalate '_' (fun group mem => (separable group mem).2)
        (by rintro rfl; exact plain.ne_nil rfl)
    have all_nonempty : (groups.all fun group => !group.isEmpty) = true :=
      List.all_eq_true.mpr fun group mem => by simpa using (separable group mem).1
    rw [dropLowLines?, split_eq]
    by_cases several : 1 < groups.length
    · rw [if_pos ⟨several, all_nonempty⟩, Option.getD_some]
    · have one : groups.length = 1 := by
        have some_groups : 0 < groups.length := List.length_pos_iff.mpr fun none => by
          subst none
          exact plain.ne_nil rfl
        omega
      obtain ⟨group, rfl⟩ := List.length_eq_one_iff.mp one
      simp [joinGroups]

/-! ## Zeros -/

/-- A point and some zeros behind it, or nothing. -/
def fraction : Nat → List Char
  | 0 => []
  | places + 1 => '.' :: List.replicate (places + 1) '0'

theorem dropZeroFraction_eq_iff {text whole : List Char} (no_point : '.' ∉ whole) :
    dropZeroFraction text = whole ↔ ∃ places, text = whole ++ fraction places := by
  constructor
  · rw [dropZeroFraction]
    have split_eq : text = text.takeWhile (· != '.') ++ text.dropWhile (· != '.') :=
      (List.takeWhile_append_dropWhile).symm
    split
    · rename_i point first zeros behind
      split
      · rename_i all_zeros
        rintro rfl
        have point_eq : point = '.' := by
          have stops := List.head?_dropWhile_not (· != '.') text
          simpa [behind] using stops
        have zeros_eq : first :: zeros = List.replicate (zeros.length + 1) '0' :=
          List.eq_replicate_iff.mpr ⟨rfl, by simpa using all_zeros⟩
        refine ⟨zeros.length + 1, ?_⟩
        rw [fraction, ← zeros_eq]
        rwa [behind, point_eq] at split_eq
      · rintro rfl
        exact ⟨0, (List.append_nil _).symm⟩
    · rintro rfl
      exact ⟨0, (List.append_nil _).symm⟩
  · rintro ⟨places, rfl⟩
    have before_point : ∀ character ∈ whole, (character != '.') = true := by
      intro character mem
      have other : character ≠ '.' := fun same => no_point (same ▸ mem)
      simpa using other
    rw [dropZeroFraction, List.dropWhile_append_of_pos before_point,
      List.takeWhile_append_of_pos before_point]
    cases places with
    | zero => simp [fraction]
    | succ places => simp [fraction, List.replicate_succ]

/-- Zeros and low lines, the first of which is a zero. -/
structure AreZeros (zeros : List Char) : Prop where
  head : ∀ first ∈ zeros.head?, first = '0'
  zero : ∀ character ∈ zeros, character = '0' ∨ character = '_'

theorem not_isLeadingDigit_of_zero {character : Char}
    (zero : character = '0' ∨ character = '_') : isLeadingDigit character = false := by
  obtain rfl | rfl := zero <;> decide

/-- If something is kept that starts with a digit other than zero, it follows on zeros. -/
theorem afterZeros?_eq_some_iff {last : Char} (last_zero : last = '0' ∨ last = '_')
    {text kept : List Char} (leading : HasLeadingDigit kept) :
    afterZeros? last text = some kept ↔
      ∃ zeros, (∀ character ∈ zeros, character = '0' ∨ character = '_') ∧
        text = zeros ++ kept := by
  obtain ⟨first, first_eq, first_leading⟩ := leading
  obtain ⟨rest, rfl⟩ := List.head?_eq_some_iff.mp first_eq
  have first_ne {character : Char} (zero : character = '0' ∨ character = '_') :
      character ≠ first := by
    rintro rfl
    simp [not_isLeadingDigit_of_zero zero] at first_leading
  have without_zeros {character : Char} (other : ¬(character = '0' ∨ character = '_'))
      (text : List Char) :
      (∃ zeros, (∀ character ∈ zeros, character = '0' ∨ character = '_') ∧
        character :: text = zeros ++ first :: rest) ↔ character :: text = first :: rest := by
    constructor
    · rintro ⟨zeros, all_zeros, text_eq⟩
      cases zeros with
      | nil => exact text_eq
      | cons zero zeros =>
          obtain ⟨rfl, -⟩ := List.cons.inj text_eq
          exact absurd (all_zeros _ (List.mem_cons_self ..)) other
    · exact fun same => ⟨[], nofun, same⟩
  fun_induction afterZeros? last text with
  | case1 last =>
      simp [first_ne last_zero]
  | case2 last character text zero induction =>
      refine (induction zero).trans ?_
      constructor
      · rintro ⟨zeros, all_zeros, rfl⟩
        exact ⟨character :: zeros, List.forall_mem_cons.mpr ⟨zero, all_zeros⟩, rfl⟩
      · rintro ⟨zeros, all_zeros, text_eq⟩
        cases zeros with
        | nil =>
            obtain ⟨same, -⟩ := List.cons.inj text_eq
            exact absurd same (first_ne zero)
        | cons other zeros =>
            exact ⟨zeros, (List.forall_mem_cons.mp all_zeros).2, (List.cons.inj text_eq).2⟩
  | case3 last character text other =>
      rw [without_zeros other, Option.some.injEq]
  | case4 last text =>
      rw [without_zeros (by decide)]
      refine iff_of_false ?_ ?_
      · intro same
        exact first_ne last_zero (List.cons.inj (Option.some.inj same)).1
      · intro same
        obtain ⟨rfl, -⟩ := List.cons.inj same
        contradiction
  | case5 last character text other not_leading =>
      rw [without_zeros other]
      refine iff_of_false nofun ?_
      intro same
      obtain ⟨rfl, -⟩ := List.cons.inj same
      exact not_leading (.inr first_leading)

theorem dropZeros?_eq_some_iff {text kept : List Char} (leading : HasLeadingDigit kept) :
    dropZeros? text = some kept ↔ ∃ zeros, AreZeros zeros ∧ text = zeros ++ kept := by
  have none_dropped : AreZeros [] := ⟨nofun, nofun⟩
  have first_zero {first zero : Char} {zeros others : List Char}
      (all_zeros : AreZeros (zero :: zeros))
      (split_eq : first :: others = zero :: zeros ++ kept) : first = '0' := by
    rw [(List.cons.inj split_eq).1]
    exact all_zeros.head zero rfl
  fun_cases dropZeros? text with
  | case1 =>
      refine iff_of_false nofun ?_
      rintro ⟨zeros, -, split_eq⟩
      obtain ⟨-, rfl⟩ := List.append_eq_nil_iff.mp split_eq.symm
      obtain ⟨_, ⟨⟩, -⟩ := leading
  | case2 text =>
      rw [afterZeros?_eq_some_iff (.inl rfl) leading]
      constructor
      · rintro ⟨zeros, all_zeros, rfl⟩
        exact ⟨'0' :: zeros, ⟨by simp, List.forall_mem_cons.mpr ⟨.inl rfl, all_zeros⟩⟩, rfl⟩
      · rintro ⟨zeros, all_zeros, split_eq⟩
        cases zeros with
        | nil =>
            obtain ⟨first, first_eq, first_leading⟩ := leading
            rw [List.nil_append] at split_eq
            obtain rfl : '0' = first := by simpa [← split_eq] using first_eq
            contradiction
        | cons zero zeros =>
            exact ⟨zeros, (List.forall_mem_cons.mp all_zeros.zero).2, (List.cons.inj split_eq).2⟩
  | case3 first text not_zero first_leading =>
      constructor
      · intro kept_eq
        exact ⟨[], none_dropped, Option.some.inj kept_eq⟩
      · rintro ⟨zeros, all_zeros, split_eq⟩
        cases zeros with
        | nil => exact congrArg some split_eq
        | cons zero zeros => exact absurd (first_zero all_zeros split_eq) not_zero
  | case4 first text not_zero not_leading =>
      refine iff_of_false nofun ?_
      rintro ⟨zeros, all_zeros, split_eq⟩
      cases zeros with
      | nil =>
          obtain ⟨other, other_eq, other_leading⟩ := leading
          rw [List.nil_append] at split_eq
          obtain rfl : first = other := by simpa [← split_eq] using other_eq
          exact not_leading other_leading
      | cons zero zeros => exact absurd (first_zero all_zeros split_eq) not_zero

/-! ## Plain forms -/

theorem plainDigits?_eq_some_iff {text digits : List Char} (plain : IsPlain digits) :
    plainDigits? text = some digits ↔
      ∃ zeros groups places, AreZeros zeros ∧ AreSeparable '_' groups ∧ groups.flatten = digits ∧
        text = zeros ++ (joinGroups groups ++ fraction places) := by
  have leading_of {groups : List (List Char)} (separable : AreSeparable '_' groups)
      (digits_eq : groups.flatten = digits) (others : List Char) :
      HasLeadingDigit (joinGroups groups ++ others) := by
    obtain ⟨first, first_eq, leading⟩ := plain.head
    refine ⟨first, ?_, leading⟩
    rw [List.head?_append, joinGroups, separable.head?_intercalate, digits_eq, first_eq]
    rfl
  have no_point {groups : List (List Char)} (separable : AreSeparable '_' groups)
      (digits_eq : groups.flatten = digits) : '.' ∉ joinGroups groups := by
    intro mem
    obtain low_line | mem := separable.eq_or_mem_of_mem_intercalate mem
    · contradiction
    · exact plain.not_mem (by decide) (digits_eq ▸ mem)
  simp only [plainDigits?, Option.bind_eq_bind, Option.bind_eq_some_iff, Option.pure_def,
    Option.some.injEq, getD_dropLowLines?_eq_iff plain]
  constructor
  · rintro ⟨kept, kept_eq, groups, separable, whole_eq, digits_eq⟩
    obtain ⟨places, rfl⟩ := (dropZeroFraction_eq_iff (no_point separable digits_eq)).mp whole_eq
    obtain ⟨zeros, areZeros, rfl⟩ :=
      (dropZeros?_eq_some_iff (leading_of separable digits_eq _)).mp kept_eq
    exact ⟨zeros, groups, places, areZeros, separable, digits_eq, rfl⟩
  · rintro ⟨zeros, groups, places, areZeros, separable, digits_eq, rfl⟩
    refine ⟨joinGroups groups ++ fraction places, ?_, groups, separable, ?_, digits_eq⟩
    · exact (dropZeros?_eq_some_iff (leading_of separable digits_eq _)).mpr
        ⟨zeros, areZeros, rfl⟩
    · exact (dropZeroFraction_eq_iff (no_point separable digits_eq)).mpr ⟨places, rfl⟩

theorem plainDigits?_cons_of_not_digit {first : Char} (other : isAsciiDigit first = false)
    (rest : List Char) : plainDigits? (first :: rest) = none := by
  have not_zero : first ≠ '0' := by
    rintro rfl
    contradiction
  have not_leading : isLeadingDigit first = false := by simp [isLeadingDigit, other]
  simp [plainDigits?, dropZeros?, not_zero, not_leading]

/-- A text, perhaps with a plus sign before it. -/
def withSign (isSigned : Bool) (body : List Char) : List Char :=
  if isSigned then '+' :: body else body

/-- Plain digits come from a text that is not negative, so that a sign is a plus sign. -/
theorem plainForm?_eq_some_iff {text digits : List Char} (plain : IsPlain digits) :
    plainForm? text = some digits ↔
      ∃ isSigned body, trim isWhiteSpace text = withSign isSigned body ∧
        plainDigits? body = some digits := by
  have no_minus (rest : List Char) : plainDigits? ('-' :: rest) = none :=
    plainDigits?_cons_of_not_digit (by decide) rest
  have no_plus (rest : List Char) : plainDigits? ('+' :: rest) = none :=
    plainDigits?_cons_of_not_digit (by decide) rest
  rw [Bool.exists_bool]
  simp only [withSign, if_true, Bool.false_eq_true, if_false]
  fun_cases plainForm? text with
  | case1 rest trim_eq =>
      refine iff_of_false ?_ ?_
      · intro found
        obtain ⟨others, -, rfl⟩ := Option.map_eq_some_iff.mp found
        exact absurd (isPlain_cons_iff.mp plain).1 (by decide)
      · rw [trim_eq]
        rintro (⟨_, rfl, found⟩ | ⟨_, ⟨⟩, -⟩)
        rw [no_minus] at found
        contradiction
  | case2 rest trim_eq negative =>
      refine iff_of_false nofun ?_
      obtain ⟨others, rfl⟩ := List.head?_eq_some_iff.mp negative
      rw [trim_eq]
      rintro (⟨_, rfl, found⟩ | ⟨_, ⟨rfl⟩, found⟩)
      · rw [no_plus] at found
        contradiction
      · rw [no_minus] at found
        contradiction
  | case3 rest trim_eq not_negative =>
      rw [trim_eq]
      constructor
      · exact fun found => .inr ⟨rest, rfl, found⟩
      · rintro (⟨_, rfl, found⟩ | ⟨_, ⟨rfl⟩, found⟩)
        · rw [no_plus] at found
          contradiction
        · exact found
  | case4 not_negative not_positive =>
      constructor
      · exact fun found => .inl ⟨_, rfl, found⟩
      · rintro (⟨_, rfl, found⟩ | ⟨body, same, -⟩)
        · exact found
        · exact absurd same (not_positive body)

end DiffReview.Field
