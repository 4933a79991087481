import DiffReview.Json.Writer
import DiffReview.Proofs.Json.Token
import DiffReview.Proofs.Text.Decimal

/-!
# Written strings and numbers

A string that has been written, whatever characters it has, is one token again, and so is a number.
A character beyond the sixteen bits of a code unit is written as two escapes and read as one.
-/

namespace DiffReview.Json

open Text

/-! ## Characters -/

/-- The characters that are escaped by a single letter. -/
def shortEscaped : List Char := ['"', '\\', '\n', '\r', '\t', '\x0c', '\x08']

/-- Whether a character is written as itself. -/
def isPrintable (character : Char) : Prop :=
  0x20 ≤ character.toNat ∧ character.toNat < 0x7F

/-- The pieces of a written character. -/
inductive PiecesOf (character : Char) : List Piece → Prop
  | itself (short : character ∈ shortEscaped ∨ isPrintable character) :
      PiecesOf character [.plain (.scalar character)]
  | unit (small : character.toNat < 0x10000) : PiecesOf character [.unit character.toNat]
  | pair (large : 0x10000 ≤ character.toNat) :
      PiecesOf character [.unit (0xD800 + (character.toNat - 0x10000) / 0x400),
        .unit (0xDC00 + (character.toNat - 0x10000) % 0x400)]

theorem writePoint_of_not_mem {character : Char} (long : character ∉ shortEscaped) :
    writePoint (.scalar character) =
      if 0x20 ≤ character.toNat ∧ character.toNat < 0x7F then
        [character]
      else if character.toNat < 0x10000 then
        escapeUnit character.toNat
      else
        escapeUnit (0xD800 + (character.toNat - 0x10000) / 0x400) ++
          escapeUnit (0xDC00 + (character.toNat - 0x10000) % 0x400) := by
  simp only [shortEscaped, List.mem_cons, not_or] at long
  rw [writePoint] <;> simp [long]

theorem hexUnit?_hexDigits {code : Nat} (small : code < 0x10000) :
    ∃ first second third fourth, hexDigits 4 code = [first, second, third, fourth] ∧
      hexUnit? (.scalar first) (.scalar second) (.scalar third) (.scalar fourth) = some code := by
  obtain ⟨first, second, third, fourth, digits_eq⟩ :
      ∃ first second third fourth, hexDigits 4 code = [first, second, third, fourth] :=
    ⟨_, _, _, _, rfl⟩
  refine ⟨first, second, third, fourth, digits_eq, ?_⟩
  have sound : soundText? [.scalar first, .scalar second, .scalar third, .scalar fourth] =
      some [first, second, third, fourth] := rfl
  rw [hexUnit?, sound, ← digits_eq, Option.bind_some, hexNumber?_hexDigits]
  exact congrArg some (Nat.mod_eq_of_lt small)

theorem scanPieces_escapeUnit {code : Nat} (small : code < 0x10000) (rest : List CodePoint) :
    scanPieces (codePoints (escapeUnit code) ++ rest) =
      (scanPieces rest).map (prepend (.unit code)) := by
  obtain ⟨first, second, third, fourth, digits_eq, unit_eq⟩ := hexUnit?_hexDigits small
  rw [escapeUnit, digits_eq]
  exact scanPieces_unit unit_eq rest

theorem scanPieces_writePoint (character : Char) :
    ∃ pieces, PiecesOf character pieces ∧ ∀ rest,
      scanPieces (codePoints (writePoint (.scalar character)) ++ rest) =
        (scanPieces rest).map fun scanned => (pieces ++ scanned.1, scanned.2) := by
  by_cases short : character ∈ shortEscaped
  · refine ⟨_, .itself (.inl short), fun rest => ?_⟩
    simp only [shortEscaped, List.mem_cons, List.not_mem_nil, or_false] at short
    obtain rfl | rfl | rfl | rfl | rfl | rfl | rfl := short
    · exact scanPieces_escape rfl rest
    all_goals exact scanPieces_escape rfl rest
  · rw [writePoint_of_not_mem short]
    have valid := toNat_valid character
    split_ifs with printable small
    · refine ⟨_, .itself (.inr printable), fun rest => scanPieces_plain ?_ ?_ rest⟩
      · rintro rfl
        exact short (by decide)
      · rintro (rfl | control)
        · exact short (by decide)
        · exact Nat.not_le.mpr control printable.1
    · exact ⟨_, .unit small, scanPieces_escapeUnit small⟩
    · refine ⟨_, .pair (Nat.not_lt.mp small), fun rest => ?_⟩
      rw [codePoints_append, List.append_assoc, scanPieces_escapeUnit (by omega),
        scanPieces_escapeUnit (by omega), Option.map_map]
      rfl

/-! ## Strings -/

/-- A code unit that is no first half stands for itself, whatever follows. -/
theorem joinPieces_unit {code : Nat} (no_high : isHighSurrogate code = false)
    (others : List Piece) : joinPieces (.unit code :: others) = unitPoint code :: joinPieces others := by
  rcases others with _ | ⟨point | low, others⟩
  · rfl
  · rfl
  · rw [joinPieces, no_high]
    rfl

theorem joinPieces_append {character : Char} {pieces : List Piece}
    (pieces_of : PiecesOf character pieces) (others : List Piece) :
    joinPieces (pieces ++ others) = .scalar character :: joinPieces others := by
  have valid := toNat_valid character
  cases pieces_of with
  | itself => rfl
  | unit small =>
      have no_high : isHighSurrogate character.toNat = false := by
        simp [isHighSurrogate]
        omega
      have point_eq : unitPoint character.toNat = .scalar character := by
        rw [unitPoint, CodePoint.ofNat?, dif_neg (by omega), if_pos (by omega), Char.ofNat_toNat]
        rfl
      rw [List.singleton_append, joinPieces_unit no_high, point_eq]
  | pair large =>
      have high : isHighSurrogate (0xD800 + (character.toNat - 0x10000) / 0x400) = true := by
        simp [isHighSurrogate]
        omega
      have low : isLowSurrogate (0xDC00 + (character.toNat - 0x10000) % 0x400) = true := by
        simp [isLowSurrogate]
        omega
      have joined : 0x10000 + (0xD800 + (character.toNat - 0x10000) / 0x400 - 0xD800) * 0x400 +
          (0xDC00 + (character.toNat - 0x10000) % 0x400 - 0xDC00) = character.toNat := by
        omega
      rw [List.cons_append, List.singleton_append, joinPieces, high, low, joined,
        Char.ofNat_toNat]
      rfl

/-- The pieces of a written text are those of its characters. -/
theorem scanPieces_flatMap_writePoint (text : List Char) :
    ∃ pieces, joinPieces pieces = codePoints text ∧ ∀ rest,
      scanPieces (codePoints ((codePoints text).flatMap writePoint) ++ .scalar '"' :: rest) =
        some (pieces, rest) := by
  induction text with
  | nil => exact ⟨[], rfl, fun rest => rfl⟩
  | cons character text induction =>
      obtain ⟨others, joined, scanned⟩ := induction
      obtain ⟨pieces, pieces_of, scanned_first⟩ := scanPieces_writePoint character
      refine ⟨pieces ++ others, ?_, fun rest => ?_⟩
      · rw [joinPieces_append pieces_of, joined]
        rfl
      · rw [codePoints_cons, List.flatMap_cons, codePoints_append, List.append_assoc,
          scanned_first]
        exact Option.map_eq_some_iff.mpr ⟨_, scanned rest, rfl⟩

/-- A written text is one token. -/
theorem tokens_writeText (text : List Char) (rest : List CodePoint) :
    tokens (codePoints (writeText (codePoints text)) ++ rest) =
      .text (codePoints text) :: tokens rest := by
  obtain ⟨pieces, joined, scanned⟩ := scanPieces_flatMap_writePoint text
  have written : codePoints (writeText (codePoints text)) ++ rest =
      .scalar '"' :: (codePoints ((codePoints text).flatMap writePoint) ++ .scalar '"' :: rest) := by
    simp [writeText]
  rw [written]
  refine tokens_cons_of_scanToken rfl ?_
  exact Option.map_eq_some_iff.mpr
    ⟨_, scanned rest, congrArg (fun points => (Token.text points, rest)) joined⟩

/-! ## Numbers -/

theorem spanDigits_codePoints {digits : List Char} (all : ∀ digit ∈ digits, digit.isDigit = true)
    {rest : List CodePoint} (afresh : StartsAfresh rest) :
    spanDigits (codePoints digits ++ rest) = (digits, rest) := by
  induction digits with
  | nil => exact spanDigits_of_startsAfresh afresh
  | cons digit digits induction =>
      have others := induction fun other mem => all other (List.mem_cons_of_mem digit mem)
      rw [codePoints_cons, List.cons_append, spanDigits, if_pos (all digit (List.mem_cons_self ..)),
        others]

theorem scanWhole_toDigits (number : Nat) {rest : List CodePoint} (afresh : StartsAfresh rest) :
    scanWhole (codePoints (Nat.toDigits 10 number) ++ rest) =
      some (Nat.toDigits 10 number, rest) := by
  obtain rfl | positive := number.eq_zero_or_pos
  · rfl
  · have digits : ∀ digit ∈ Nat.toDigits 10 number, digit.isDigit = true :=
      fun _ => Nat.isDigit_of_mem_toDigits (by decide) (by decide)
    have no_zero : (codePoints (Nat.toDigits 10 number) ++ rest).head? ≠ some (.scalar '0') := by
      have head_ne := head?_toDigits_ne_zero positive
      cases digits_eq : Nat.toDigits 10 number with
      | nil => exact absurd digits_eq Nat.toDigits_ne_nil
      | cons digit others =>
          rw [digits_eq] at head_ne
          simpa using head_ne
    rw [scanWhole_of_head?_ne no_zero, spanDigits_codePoints digits afresh, someDigits,
      if_neg Nat.toDigits_ne_nil]

/-- A number without fraction and exponent is an integer. -/
theorem scanNumber_of_scanWhole {points rest : List CodePoint} {whole : List Char}
    (found : scanWhole points = some (whole, rest)) (afresh : StartsAfresh rest)
    (negative : Bool) : scanNumber negative points = some (.integer negative whole, rest) := by
  have no_fraction : scanFraction rest = none :=
    scanFraction_of_head?_ne (head?_ne_of_startsAfresh afresh (by simp))
  have no_exponent : scanExponent rest = none := by
    refine scanExponent_of_no_mark ?_
    rintro mark head_eq (rfl | rfl)
    · exact head?_ne_of_startsAfresh afresh (by simp) head_eq
    · exact head?_ne_of_startsAfresh afresh (by simp) head_eq
  simp [scanNumber, found, no_fraction, no_exponent]

theorem scanToken_digit {digit : Char} (is_digit : digit.isDigit = true)
    (points : List CodePoint) :
    scanToken (.scalar digit) points =
      (scanNumber false (.scalar digit :: points)).or (scanConstant (.scalar digit :: points)) := by
  rw [scanToken]
  all_goals
    rintro rfl
    exact absurd is_digit (by decide)

/-- The digits of a number are one token, wherever no token goes on behind them. -/
theorem tokens_toDigits (number : Nat) {rest : List CodePoint} (afresh : StartsAfresh rest) :
    tokens (codePoints (Nat.toDigits 10 number) ++ rest) =
      .integer false (Nat.toDigits 10 number) :: tokens rest := by
  have scanned := scanNumber_of_scanWhole (scanWhole_toDigits number afresh) afresh false
  cases digits_eq : Nat.toDigits 10 number with
  | nil => exact absurd digits_eq Nat.toDigits_ne_nil
  | cons digit others =>
      have is_digit : digit.isDigit = true :=
        Nat.isDigit_of_mem_toDigits (by decide) (by decide)
          (digits_eq ▸ List.mem_cons_self .. : digit ∈ Nat.toDigits 10 number)
      have solid : isSpacing (.scalar digit) = false := by
        rw [Bool.eq_false_iff]
        intro spacing
        have ends := mem_tokenEnds_of_mem_spaces digit (isSpacing_scalar_iff.mp spacing)
        simp [not_isDigit_of_mem_tokenEnds digit ends] at is_digit
      rw [digits_eq] at scanned
      refine tokens_cons_of_scanToken solid ?_
      rw [scanToken_digit is_digit]
      exact Option.or_eq_some_iff.mpr (.inl scanned)

end DiffReview.Json
