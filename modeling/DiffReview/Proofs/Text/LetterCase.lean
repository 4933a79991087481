import DiffReview.Text.Blank
import DiffReview.Text.LetterCase
import DiffReview.Text.Percent
import Mathlib.Data.List.Basic

/-!
# Small letters

A character in small letters may become several characters, but none of them is blank unless it was
blank itself.  For ASCII characters, small letters are small letters of capital ones as well.
-/

namespace DiffReview.Text

variable {character : Char}

/-- What holds of the characters up to U+007F holds of all ASCII characters. -/
theorem of_isAscii (holds : Char → Bool)
    (all_hold : (List.range 0x80).all (fun code => holds (Char.ofNat code)) = true)
    (ascii : isAscii character = true) : holds character = true := by
  have below : character.toNat < 0x80 := by simpa [isAscii] using ascii
  have here := List.all_eq_true.mp all_hold character.toNat (List.mem_range.mpr below)
  rwa [Char.ofNat_toNat] at here

theorem lowerCharacter_toLower (ascii : isAscii character = true) :
    lowerCharacter character.toLower = lowerCharacter character := by
  have same := of_isAscii (fun character =>
    lowerCharacter character.toLower == lowerCharacter character) (by decide +kernel) ascii
  exact eq_of_beq same

theorem lowerCharacter_toUpper (ascii : isAscii character = true) :
    lowerCharacter character.toUpper = lowerCharacter character := by
  have same := of_isAscii (fun character =>
    lowerCharacter character.toUpper == lowerCharacter character) (by decide +kernel) ascii
  exact eq_of_beq same

/-! ## Blank characters -/

/-- The first and last code point of each range of blank characters. -/
def blankRanges : List (Nat × Nat) :=
  [(0x09, 0x0D), (0x1C, 0x20), (0x85, 0x85), (0xA0, 0xA0), (0x1680, 0x1680), (0x2000, 0x200A),
    (0x2028, 0x2029), (0x202F, 0x202F), (0x205F, 0x205F), (0x3000, 0x3000)]

theorem exists_blankRange (blank : isBlank character = true) :
    ∃ range ∈ blankRanges, range.1 ≤ character.toNat ∧ character.toNat ≤ range.2 := by
  simp [isBlank, isWhiteSpace] at blank
  simp [blankRanges]
  omega

theorem toNat_ofNat_mem (code : Nat) : (Char.ofNat code).toNat ∈ [code, 0] := by
  by_cases valid : code.isValidChar
  · have toNat_eq : (Char.ofNat code).toNat = code := by
      rw [Char.ofNat, dif_pos valid]
      rfl
    rw [toNat_eq]
    exact List.mem_cons_self
  · simp [Char.ofNat, valid]

/-- No run of letters is mapped across a blank character. -/
theorem isBlank_ofNat_image {run : CaseRun} (run_mem : run ∈ lowerRuns) {code image : Nat}
    (maps : run.image? code = some image) : isBlank (Char.ofNat image) = false := by
  have apart : ∀ run ∈ lowerRuns, ∀ range ∈ blankRanges,
      0 < range.1 ∧ (range.2 < run.target ∨ run.target + (run.last - run.first) < range.1) := by
    decide +kernel
  rw [← Bool.not_eq_true]
  intro blank
  obtain ⟨range, range_mem, above, below⟩ := exists_blankRange blank
  obtain ⟨positive, beside⟩ := apart run run_mem range range_mem
  rw [CaseRun.image?, Option.ite_none_right_eq_some] at maps
  obtain ⟨within, image_eq⟩ := maps
  have image_eq := Option.some.inj image_eq
  rcases List.mem_pair.mp (toNat_ofNat_mem image) with same | nul <;> omega

/-- A character that is not blank is not blank in small letters either. -/
theorem isBlank_of_mem_lowerCharacter (not_blank : isBlank character = false) {lowered : Char}
    (lowered_mem : lowered ∈ lowerCharacter character) : isBlank lowered = false := by
  by_cases ascii : isAscii character = true
  · have kept := of_isAscii (fun character =>
      isBlank character || (lowerCharacter character).all (!isBlank ·)) (by decide +kernel) ascii
    rw [not_blank, Bool.false_or, List.all_eq_true] at kept
    simpa using kept lowered lowered_mem
  have beyond : ¬character.toNat < 0x80 := by simpa [isAscii] using ascii
  rw [lowerCharacter, if_neg beyond] at lowered_mem
  split at lowered_mem
  · rcases List.mem_pair.mp lowered_mem with rfl | rfl <;> decide
  rw [List.mem_singleton] at lowered_mem
  rw [lowered_mem]
  cases found : applyRuns? lowerRuns character.toNat with
  | none => exact not_blank
  | some image =>
      obtain ⟨run, run_mem, maps⟩ := List.exists_of_findSome?_eq_some found
      exact isBlank_ofNat_image run_mem maps

end DiffReview.Text
