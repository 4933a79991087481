import DiffReview.Field
import DiffReview.Proofs.Field.NumberText
import DiffReview.Proofs.Json.Integers
import DiffReview.Proofs.Text.Blank
import DiffReview.Proofs.Text.CodePoint

/-!
# Integers in fields

An integer field takes a positive integer as it is, as the truth value for one, as a whole binary64
number that is not too large, or as a text that spells it: digits in groups with low lines between
them, perhaps zeros and a plus sign before them, a point and zeros behind them, and blanks around
all that.  Whatever its sign, an integer from a field can be written again.
-/

namespace DiffReview.Number

/-! ## Whole numbers -/

theorem whole?_eq_some_iff {mantissa exponent whole : Int} :
    whole? mantissa exponent = some whole ↔
      mantissa * Int.pow 2 exponent.toNat = whole * Int.pow 2 (-exponent).toNat := by
  rw [whole?]
  split
  · rename_i nonnegative
    have no_unit : Int.pow 2 (-exponent).toNat = 1 := by
      rw [Int.toNat_of_nonpos (by omega)]
      rfl
    rw [Option.some.injEq, no_unit, Int.mul_one]
  · rename_i negative
    have no_factor : Int.pow 2 exponent.toNat = 1 := by
      rw [Int.toNat_of_nonpos (by omega)]
      rfl
    have unit_pos : 0 < Int.pow 2 (-exponent).toNat := Int.pow_pos (by decide)
    rw [no_factor, Int.mul_one]
    generalize Int.pow 2 (-exponent).toNat = unit at unit_pos
    constructor
    · intro found
      replace found : (if mantissa % unit = 0 then some (mantissa / unit) else none) = some whole :=
        found
      split at found
      · rename_i divides
        obtain rfl := Option.some.inj found
        exact (Int.ediv_mul_cancel (Int.dvd_of_emod_eq_zero divides)).symm
      · contradiction
    · rintro rfl
      rw [if_pos (Int.mul_emod_left whole unit), Int.mul_ediv_cancel _ (Int.ne_of_gt unit_pos)]

/-- A finite number is some integer.  A negative power of two stands on the other side. -/
def Binary64.IsInteger (value : Binary64) (number : Int) : Prop :=
  ∃ mantissa exponent, decompose? value = some (mantissa, exponent) ∧
    mantissa * Int.pow 2 exponent.toNat = number * Int.pow 2 (-exponent).toNat

end DiffReview.Number

namespace DiffReview.Field

open Text
open Number (Binary64)

/-! ## Spellings -/

/-- A text that a positive number may be given as. -/
structure PositiveSpelling where
  before : List Char
  isSigned : Bool
  /-- Zeros before the digits, with low lines anywhere behind the first of them. -/
  zeros : List Char
  /-- The digits, cut where a single low line stands. -/
  groups : List (List Char)
  /-- How many zeros follow on a point; without them there is no point. -/
  places : Nat
  after : List Char
  before_white : ∀ character ∈ before, isWhiteSpace character = true
  areZeros : AreZeros zeros
  separable : AreSeparable '_' groups
  plain : IsPlain groups.flatten
  after_white : ∀ character ∈ after, isWhiteSpace character = true

namespace PositiveSpelling

/-- Everything but a sign and the blanks. -/
def body (spelling : PositiveSpelling) : List Char :=
  spelling.zeros ++ (joinGroups spelling.groups ++ fraction spelling.places)

/-- Everything but the blanks. -/
def core (spelling : PositiveSpelling) : List Char :=
  withSign spelling.isSigned spelling.body

/-- The whole text. -/
def text (spelling : PositiveSpelling) : List Char :=
  spelling.before ++ (spelling.core ++ spelling.after)

/-- The digits that are left when zeros and low lines are dropped. -/
def digits (spelling : PositiveSpelling) : List Char :=
  spelling.groups.flatten

theorem isPlain_digits (spelling : PositiveSpelling) : IsPlain spelling.digits :=
  spelling.plain

/-- The number that is given. -/
def value (spelling : PositiveSpelling) : Nat :=
  digitsValue spelling.digits

end PositiveSpelling

theorem isWhiteSpace_of_isAsciiDigit {character : Char} (digit : isAsciiDigit character = true) :
    isWhiteSpace character = false := by
  have not_blank := isBlank_of_isDigit digit
  rw [isBlank, Bool.or_eq_false_iff] at not_blank
  exact not_blank.1

namespace PositiveSpelling

variable (spelling : PositiveSpelling)

theorem mem_core {character : Char} (mem : character ∈ spelling.core) :
    character ∈ ['+', '_', '.'] ∨ isAsciiDigit character = true := by
  have mem_body : character ∈ spelling.body →
      character ∈ ['+', '_', '.'] ∨ isAsciiDigit character = true := by
    intro mem
    obtain mem | mem := List.mem_append.mp mem
    · obtain rfl | rfl := spelling.areZeros.zero character mem
      · exact .inr (by decide)
      · exact .inl (by decide)
    · obtain mem | mem := List.mem_append.mp mem
      · obtain rfl | mem := spelling.separable.eq_or_mem_of_mem_intercalate mem
        · exact .inl (by decide)
        · exact .inr (spelling.plain.digit character mem)
      · cases places_eq : spelling.places with
        | zero => simp [places_eq, fraction] at mem
        | succ places =>
            rw [places_eq, fraction] at mem
            obtain rfl | mem := List.mem_cons.mp mem
            · exact .inl (by decide)
            · obtain rfl := List.eq_of_mem_replicate mem
              exact .inr (by decide)
  rw [core, withSign] at mem
  split at mem
  · obtain rfl | mem := List.mem_cons.mp mem
    · exact .inl (by decide)
    · exact mem_body mem
  · exact mem_body mem

theorem isTrimmed_core : IsTrimmed isWhiteSpace spelling.core := by
  have marks_kept : ∀ character ∈ ['+', '_', '.'], isWhiteSpace character = false := by
    simp only [List.forall_mem_cons, List.not_mem_nil, false_implies, implies_true, and_true]
    decide
  have kept : ∀ character ∈ spelling.core, isWhiteSpace character = false := by
    intro character mem
    obtain mark | digit := spelling.mem_core mem
    · exact marks_kept character mark
    · exact isWhiteSpace_of_isAsciiDigit digit
  exact ⟨fun character first => kept character (List.mem_of_mem_head? first),
    fun character last => kept character (List.mem_of_getLast? last)⟩

theorem minus_not_mem_text : '-' ∉ spelling.text := by
  intro mem
  obtain mem | mem := List.mem_append.mp mem
  · exact absurd (spelling.before_white '-' mem) (by decide)
  · obtain mem | mem := List.mem_append.mp mem
    · exact absurd (spelling.mem_core mem) (by decide)
    · exact absurd (spelling.after_white '-' mem) (by decide)

theorem mem_core_of_mem_digits {character : Char} (mem : character ∈ spelling.digits) :
    character ∈ spelling.core := by
  have mem_groups : character ∈ joinGroups spelling.groups := by
    rw [digits, ← spelling.separable.filter_intercalate] at mem
    exact (List.mem_filter.mp mem).1
  have mem_body : character ∈ spelling.body :=
    List.mem_append_right _ (List.mem_append_left _ mem_groups)
  rw [core, withSign]
  split
  · exact List.mem_cons_of_mem _ mem_body
  · exact mem_body

theorem core_ne_nil : spelling.core ≠ [] := by
  obtain ⟨first, first_eq, -⟩ := spelling.plain.head
  exact List.ne_nil_of_mem (spelling.mem_core_of_mem_digits (List.mem_of_mem_head? first_eq))

theorem trim_text : trim isWhiteSpace spelling.text = spelling.core :=
  trim_append_append spelling.isTrimmed_core spelling.core_ne_nil spelling.before_white
    spelling.after_white

end PositiveSpelling

/-- A text has a plain form that is positive if it is a spelling of its number. -/
theorem plainForm?_eq_some_iff_exists_spelling {text digits : List Char} (plain : IsPlain digits) :
    plainForm? text = some digits ↔
      ∃ spelling : PositiveSpelling, spelling.text = text ∧ spelling.digits = digits := by
  rw [plainForm?_eq_some_iff plain]
  constructor
  · rintro ⟨isSigned, body, core_eq, found⟩
    obtain ⟨zeros, groups, places, areZeros, separable, rfl, rfl⟩ :=
      (plainDigits?_eq_some_iff plain).mp found
    obtain ⟨before, after, text_eq, before_white, after_white⟩ :=
      exists_eq_append_trim isWhiteSpace text
    rw [core_eq] at text_eq
    let spelling : PositiveSpelling :=
      { before, isSigned, zeros, groups, places, after, before_white, areZeros, separable, plain,
        after_white }
    exact ⟨spelling, text_eq.symm, rfl⟩
  · rintro ⟨spelling, rfl, rfl⟩
    refine ⟨spelling.isSigned, spelling.body, spelling.trim_text, ?_⟩
    exact (plainDigits?_eq_some_iff plain).mpr
      ⟨_, _, _, spelling.areZeros, spelling.separable, rfl, rfl⟩

/-! ## Too many digits -/

theorem dropMark_minus {text : List Char} (absent : '-' ∉ text) : dropMark ['-'] text = text :=
  dropMark_of_head?_ne fun first => absent (List.mem_of_mem_head? first)

theorem isOverlong_eq_true_iff {digits : List Char} (plain : IsPlain digits) :
    isOverlong digits = true ↔ maxDigits < digits.length := by
  obtain ⟨first, first_eq, leading⟩ := plain.head
  have all_digits : digits.takeWhile isAsciiDigit = digits :=
    List.takeWhile_eq_self_iff.mpr plain.digit
  rw [isOverlong, dropMark_minus (plain.not_mem (by decide)), all_digits]
  rw [Option.mem_def] at first_eq
  simp [first_eq, leading]

/-- The digits at the start of a text in groups are among those that are left without low lines. -/
theorem length_takeWhile_joinGroups_le {groups : List (List Char)}
    (separable : AreSeparable '_' groups) :
    ((joinGroups groups).takeWhile isAsciiDigit).length ≤ groups.flatten.length := by
  have kept : ((joinGroups groups).takeWhile isAsciiDigit).filter (· ≠ '_') =
      (joinGroups groups).takeWhile isAsciiDigit := by
    refine List.filter_eq_self.mpr fun character mem => decide_eq_true ?_
    rintro rfl
    exact absurd (List.mem_takeWhile_imp mem) (by decide)
  rw [← separable.filter_intercalate, ← kept]
  exact ((List.takeWhile_sublist isAsciiDigit).filter _).length_le

/-- Nothing stands before the digits of a spelling that starts with one. -/
theorem text_eq_of_leading {spelling : PositiveSpelling} (leading : HasLeadingDigit spelling.text) :
    spelling.text =
      joinGroups spelling.groups ++ (fraction spelling.places ++ spelling.after) := by
  obtain ⟨first, first_eq, first_leading⟩ := leading
  rw [Option.mem_def] at first_eq
  have before_eq : spelling.before = [] := by
    cases before_eq : spelling.before with
    | nil => rfl
    | cons blank blanks =>
        have white := spelling.before_white blank (by simp [before_eq])
        obtain rfl : blank = first := by simpa [PositiveSpelling.text, before_eq] using first_eq
        have digit := isAsciiDigit_of_isLeadingDigit first_leading
        simp [isWhiteSpace_of_isAsciiDigit digit] at white
  have unsigned : spelling.isSigned = false := by
    cases signed : spelling.isSigned with
    | false => rfl
    | true =>
        obtain rfl : '+' = first := by
          simpa [PositiveSpelling.text, PositiveSpelling.core, withSign, before_eq, signed]
            using first_eq
        contradiction
  have core_eq : spelling.core = spelling.body := by
    rw [PositiveSpelling.core, unsigned]
    rfl
  have zeros_eq : spelling.zeros = [] := by
    cases zeros_eq : spelling.zeros with
    | nil => rfl
    | cons zero zeros =>
        obtain rfl : zero = first := by
          simpa [PositiveSpelling.text, PositiveSpelling.body, before_eq, core_eq, zeros_eq]
            using first_eq
        have zero_eq : zero = '0' := spelling.areZeros.head zero (by simp [zeros_eq])
        rw [zero_eq] at first_leading
        contradiction
  simp [PositiveSpelling.text, PositiveSpelling.body, before_eq, core_eq, zeros_eq]

theorem takeWhile_fraction_append_after (spelling : PositiveSpelling) :
    (fraction spelling.places ++ spelling.after).takeWhile isAsciiDigit = [] := by
  cases spelling.places with
  | succ places => rfl
  | zero =>
      cases after_eq : spelling.after with
      | nil => rfl
      | cons blank blanks =>
          have white := spelling.after_white blank (by simp [after_eq])
          refine List.takeWhile_cons_of_neg fun digit => ?_
          simp [isWhiteSpace_of_isAsciiDigit digit] at white

theorem takeWhile_text_of_leading {spelling : PositiveSpelling}
    (leading : HasLeadingDigit spelling.text) :
    spelling.text.takeWhile isAsciiDigit = (joinGroups spelling.groups).takeWhile isAsciiDigit := by
  rw [text_eq_of_leading leading, List.takeWhile_append, takeWhile_fraction_append_after,
    List.append_nil]
  split
  · rename_i whole
    exact ((List.takeWhile_prefix isAsciiDigit).eq_of_length whole).symm
  · rfl

theorem not_isOverlong_text {spelling : PositiveSpelling}
    (short : spelling.digits.length ≤ maxDigits) : isOverlong spelling.text = false := by
  rw [isOverlong, dropMark_minus spelling.minus_not_mem_text, Nat.sub_self, Nat.zero_add]
  refine Bool.and_eq_false_imp.mpr fun leading => decide_eq_false ?_
  rw [takeWhile_text_of_leading ((Option.any_eq_true _ _).mp leading)]
  exact Nat.not_lt.mpr ((length_takeWhile_joinGroups_le spelling.separable).trans short)

/-! ## Texts of integers -/

/-- A plain text is a spelling of its number. -/
theorem exists_spelling_of_isPlain {text : List Char} (plain : IsPlain text) :
    ∃ spelling : PositiveSpelling, spelling.text = text ∧ spelling.digits = text := by
  have separable : AreSeparable '_' [text] :=
    List.forall_mem_singleton.mpr ⟨plain.ne_nil, plain.not_mem (by decide)⟩
  have digits_eq : [text].flatten = text := List.flatten_singleton
  let spelling : PositiveSpelling :=
    { before := [], isSigned := false, zeros := [], groups := [text], places := 0, after := [],
      before_white := nofun, areZeros := ⟨nofun, nofun⟩, separable,
      plain := digits_eq.symm ▸ plain, after_white := nofun }
  refine ⟨spelling, ?_, digits_eq⟩
  simp [spelling, PositiveSpelling.text, PositiveSpelling.core, PositiveSpelling.body, withSign,
    joinGroups, fraction]

theorem plainForm?_text (spelling : PositiveSpelling) :
    plainForm? spelling.text = some spelling.digits :=
  (plainForm?_eq_some_iff_exists_spelling spelling.isPlain_digits).mpr ⟨spelling, rfl, rfl⟩

theorem PositiveSpelling.text_ne_zero (spelling : PositiveSpelling) : spelling.text ≠ ['0'] := by
  intro text_eq
  obtain ⟨first, first_eq, leading⟩ := spelling.isPlain_digits.head
  have mem_core := spelling.mem_core_of_mem_digits (List.mem_of_mem_head? first_eq)
  have mem_text : first ∈ spelling.text :=
    List.mem_append_right _ (List.mem_append_left _ mem_core)
  rw [text_eq] at mem_text
  obtain rfl := List.mem_singleton.mp mem_text
  contradiction

/-- A spelling that is a plain text as it stands is the plain form of its number. -/
theorem eq_value_of_plainInteger?_text {spelling : PositiveSpelling} {number : Int}
    (found : plainInteger? spelling.text = some number) : number = spelling.value := by
  obtain ⟨zero, -⟩ | ⟨plain, rfl⟩ :=
    (plainInteger?_eq_some_iff_of_unsigned spelling.minus_not_mem_text).mp found
  · exact absurd zero spelling.text_ne_zero
  · obtain ⟨plain_spelling, same_text, digits_eq⟩ := exists_spelling_of_isPlain plain
    have same : some spelling.digits = some plain_spelling.digits := by
      rw [← plainForm?_text, ← plainForm?_text, same_text]
    rw [PositiveSpelling.value, Option.some.inj same, digits_eq]

theorem integerOfText_eq_ok_iff {text : List Char} {number : Int} :
    integerOfText text = .ok number ↔
      isOverlong text = false ∧ (plainInteger? text = some number ∨ plainInteger? text = none ∧
        ∃ form, plainForm? text = some form ∧ isOverlong form = false ∧
          plainInteger? form = some number) := by
  have elim_eq_ok_iff (found : Option Int) :
      found.elim (.error FieldFault.integerParsing) Except.ok = .ok number ↔
        found = some number := by
    cases found <;> simp
  rw [integerOfText]
  cases overlong : isOverlong text with
  | true => simp
  | false => simp [elim_eq_ok_iff, Option.or_eq_some_iff, Option.bind_eq_some_iff]

/-- A text is read as a positive number if it spells it with few enough digits. -/
theorem integerOfText_eq_ok_iff_exists_spelling {text : List Char} {number : Nat}
    (positive : 0 < number) :
    integerOfText text = .ok number ↔
      ∃ spelling : PositiveSpelling, spelling.text = text ∧ spelling.value = number ∧
        spelling.digits.length ≤ maxDigits := by
  have fits_iff {digits : List Char} (plain : IsPlain digits) :
      isOverlong digits = false ↔ digits.length ≤ maxDigits := by
    rw [Bool.eq_false_iff, Ne, isOverlong_eq_true_iff plain, Nat.not_lt]
  rw [integerOfText_eq_ok_iff]
  constructor
  · rintro ⟨text_fits, found | ⟨-, form, form_eq, form_fits, found⟩⟩
    · obtain ⟨plain, rfl⟩ := isPlain_of_plainInteger? positive found
      obtain ⟨spelling, text_eq, digits_eq⟩ := exists_spelling_of_isPlain plain
      exact ⟨spelling, text_eq, congrArg digitsValue digits_eq,
        digits_eq ▸ (fits_iff plain).mp text_fits⟩
    · obtain ⟨plain, rfl⟩ := isPlain_of_plainInteger? positive found
      obtain ⟨spelling, text_eq, rfl⟩ := (plainForm?_eq_some_iff_exists_spelling plain).mp form_eq
      exact ⟨spelling, text_eq, rfl, (fits_iff plain).mp form_fits⟩
  · rintro ⟨spelling, rfl, rfl, short⟩
    refine ⟨not_isOverlong_text short, ?_⟩
    cases found : plainInteger? spelling.text with
    | some number => exact .inl (congrArg some (eq_value_of_plainInteger?_text found))
    | none =>
        exact .inr ⟨rfl, spelling.digits, plainForm?_text spelling,
          (fits_iff spelling.isPlain_digits).mpr short,
          plainInteger?_of_isPlain spelling.isPlain_digits⟩

theorem integerOfFloat_eq_ok_iff {value : Binary64} {number : Int} :
    integerOfFloat value = .ok number ↔
      value.IsInteger number ∧ -Int.pow 2 63 < number ∧ number < Int.pow 2 63 := by
  rw [integerOfFloat, Binary64.IsInteger]
  cases decomposed : Number.decompose? value with
  | none => simp
  | some parts =>
      obtain ⟨mantissa, exponent⟩ := parts
      simp only [Option.some.injEq, Prod.mk.injEq, ← Number.whole?_eq_some_iff, and_assoc,
        exists_and_left, exists_eq_left']
      cases Number.whole? mantissa exponent with
      | none => simp
      | some whole =>
          by_cases small : -Int.pow 2 63 < whole ∧ whole < Int.pow 2 63
          · simp only [if_pos small, Except.ok.injEq, Option.some.injEq]
            exact ⟨fun same => ⟨same, same ▸ small⟩, And.left⟩
          · simp only [if_neg small, Option.some.injEq]
            refine iff_of_false nofun ?_
            rintro ⟨rfl, fits⟩
            exact small fits

/-! ## Fields -/

/-- The values that an integer field takes as a positive integer. -/
inductive GivesPositive : Json → Int → Prop
  | integer {number : Int} (positive : 1 ≤ number) : GivesPositive (.integer number) number
  | truth : GivesPositive (.bool true) 1
  | float {value : Binary64} {number : Int} (positive : 1 ≤ number)
      (whole : value.IsInteger number) (small : number < Int.pow 2 63) :
      GivesPositive (.float value) number
  | text (spelling : PositiveSpelling) (short : spelling.digits.length ≤ maxDigits) :
      GivesPositive (.text (codePoints spelling.text)) spelling.value

/-- A value is taken as a positive integer exactly if it gives it. -/
theorem integer_eq_ok_iff_givesPositive {value : Json} {number : Int} :
    integer value = .ok number ∧ 1 ≤ number ↔ GivesPositive value number := by
  constructor
  · rintro ⟨accepted, positive⟩
    cases value with
    | null | array | object => cases accepted
    | bool truth =>
        obtain rfl := Except.ok.inj accepted
        cases truth with
        | false => contradiction
        | true => exact .truth
    | integer given =>
        obtain rfl := Except.ok.inj accepted
        exact .integer positive
    | float given =>
        obtain ⟨whole, -, small⟩ := integerOfFloat_eq_ok_iff.mp accepted
        exact .float positive whole small
    | text points =>
        rw [integer] at accepted
        split at accepted
        · rename_i text sound
          obtain rfl := soundText?_eq_some_iff.mp sound
          obtain ⟨size, rfl⟩ := Int.eq_ofNat_of_zero_le (Int.le_trans (by decide) positive)
          have size_pos : 0 < size := by omega
          obtain ⟨spelling, rfl, rfl, short⟩ :=
            (integerOfText_eq_ok_iff_exists_spelling size_pos).mp accepted
          exact .text spelling short
        · contradiction
  · intro gives
    cases gives with
    | integer positive => exact ⟨rfl, positive⟩
    | truth => exact ⟨rfl, by decide⟩
    | float positive whole small =>
        refine ⟨integerOfFloat_eq_ok_iff.mpr ⟨whole, ?_, small⟩, positive⟩
        exact Int.lt_of_lt_of_le (by decide) positive
    | text spelling short =>
        have positive := digitsValue_pos spelling.isPlain_digits
        have accepted := (integerOfText_eq_ok_iff_exists_spelling positive).mpr
          ⟨spelling, rfl, rfl, short⟩
        refine ⟨?_, ?_⟩
        · rw [integer, soundText?_eq_some_iff.mpr rfl]
          exact accepted
        · exact Int.toNat_le.mp positive

/-! ## Sizes -/

/-- Plain digits, perhaps behind a sign, are few unless the text is too long. -/
theorem length_le_of_not_isOverlong {text digits : List Char}
    (unsigned_eq : dropMark ['-'] text = digits) (plain : IsPlain digits)
    (fits : isOverlong text = false) : digits.length ≤ maxDigits := by
  obtain ⟨first, first_eq, leading⟩ := plain.head
  have all_digits : digits.takeWhile isAsciiDigit = digits :=
    List.takeWhile_eq_self_iff.mpr plain.digit
  rw [Option.mem_def] at first_eq
  simp only [isOverlong, unsigned_eq, first_eq, all_digits, Option.any_some, leading,
    Bool.true_and, decide_eq_false_iff_not] at fits
  omega

theorem lt_of_plainNatural? {digits : List Char} {size : Nat}
    (found : plainNatural? digits = some size)
    (short : IsPlain digits → digits.length ≤ maxDigits) : size < Nat.pow 10 maxDigits := by
  obtain ⟨-, rfl⟩ | ⟨plain, rfl⟩ := plainNatural?_eq_some_iff.mp found
  · exact Nat.lt_of_lt_of_le (by decide) ten_le_pow_maxDigits
  · exact digitsValue_lt_of_le (short plain)

theorem natAbs_lt_of_plainInteger? {text : List Char} {number : Int}
    (fits : isOverlong text = false) (found : plainInteger? text = some number) :
    number.natAbs < Nat.pow 10 maxDigits := by
  revert found
  fun_cases plainInteger? text with
  | case1 digits =>
      intro found
      simp only [Option.map_eq_some_iff, Option.bind_eq_bind, Option.bind_eq_some_iff,
        Option.pure_def, Option.some.injEq] at found
      obtain ⟨_, ⟨size, natural, rfl⟩, rfl⟩ := found
      have unsigned_eq : dropMark ['-'] ('-' :: digits) = digits := by
        simp [dropMark, List.isPrefixOf?]
      rw [Int.natAbs_neg, Int.natAbs_natCast]
      exact lt_of_plainNatural? natural fun plain =>
        length_le_of_not_isOverlong unsigned_eq plain fits
  | case2 unsigned =>
      intro found
      simp only [Option.map_eq_some_iff, Option.bind_eq_bind, Option.bind_eq_some_iff,
        Option.pure_def, Option.some.injEq] at found
      obtain ⟨_, ⟨size, natural, rfl⟩, rfl⟩ := found
      rw [Int.natAbs_natCast]
      exact lt_of_plainNatural? natural fun plain =>
        length_le_of_not_isOverlong (dropMark_minus (plain.not_mem (by decide))) plain fits

/-- Unless a value is an integer that has too many digits itself, a field takes no such integer from
it. -/
theorem natAbs_lt_of_integer {value : Json} (short : value.IsShort) {number : Int}
    (taken : integer value = .ok number) : number.natAbs < Nat.pow 10 maxDigits := by
  have small : ∀ size, size < 10 → size < Nat.pow 10 maxDigits :=
    fun _ below => Nat.lt_of_lt_of_le below ten_le_pow_maxDigits
  cases short with
  | null | array | object => cases taken
  | integer fits =>
      obtain rfl := Except.ok.inj taken
      exact fits
  | bool truth =>
      obtain rfl := Except.ok.inj taken
      cases truth <;> exact small _ (by decide)
  | float given =>
      obtain ⟨-, above, below⟩ := integerOfFloat_eq_ok_iff.mp taken
      have bound_eq : Int.pow 2 63 = (Nat.pow 2 63 : Nat) := by decide
      rw [bound_eq] at above below
      have less : number.natAbs < Nat.pow 10 19 :=
        Nat.lt_of_lt_of_le (by omega : number.natAbs < Nat.pow 2 63) (by decide)
      exact Nat.lt_of_lt_of_le less (pow_le_pow_maxDigits (by decide))
  | text points =>
      rw [integer] at taken
      split at taken
      · obtain ⟨fits, found | ⟨-, form, -, form_fits, found⟩⟩ := integerOfText_eq_ok_iff.mp taken
        · exact natAbs_lt_of_plainInteger? fits found
        · exact natAbs_lt_of_plainInteger? form_fits found
      · cases taken

end DiffReview.Field
