import DiffReview.Proofs.Text.Field
import DiffReview.Proofs.Text.Lines
import Mathlib.Data.List.TakeWhile

/-!
# Trimmed text and words

A text is trimmed if it neither starts nor ends with a character that is dropped.  Trimming makes a
text so, and changes no text that is.  The words of a text stand between its blank characters.
-/

namespace DiffReview.Text

/-- Neither the first nor the last character is to be dropped. -/
structure IsTrimmed (drop : Char → Bool) (text : List Char) : Prop where
  /-- The first character stays. -/
  head_kept : ∀ character ∈ text.head?, drop character = false
  /-- The last character stays. -/
  last_kept : ∀ character ∈ text.getLast?, drop character = false

theorem isBlank_of_isDigit {character : Char} (digit : character.isDigit = true) :
    isBlank character = false := by
  obtain ⟨least, most⟩ := Char.isDigit_iff_toNat.mp digit
  have zero : '0'.toNat = 48 := rfl
  have nine : '9'.toNat = 57 := rfl
  simp [isBlank, isWhiteSpace]
  omega

theorem head?_trimStart {drop : Char → Bool} {text : List Char} {character : Char}
    (first : character ∈ (trimStart drop text).head?) : drop character = false := by
  have kept := List.head?_dropWhile_not drop text
  rw [trimStart, Option.mem_def] at first
  rwa [first] at kept

theorem trimStart_eq_self_iff {drop : Char → Bool} {text : List Char} :
    trimStart drop text = text ↔ ∀ character ∈ text.head?, drop character = false := by
  cases text with
  | nil => simp [trimStart]
  | cons first rest => simp [trimStart, List.dropWhile_eq_self_iff]

theorem trimEnd_eq_self_iff {drop : Char → Bool} {text : List Char} :
    trimEnd drop text = text ↔ ∀ character ∈ text.getLast?, drop character = false := by
  rw [trimEnd, List.reverse_eq_iff, ← List.head?_reverse]
  exact trimStart_eq_self_iff

theorem isTrimmed_trim (drop : Char → Bool) (text : List Char) :
    IsTrimmed drop (trim drop text) where
  head_kept := by
    intro character first
    obtain ⟨blanks, split, -⟩ := exists_eq_trimEnd_append drop (trimStart drop text)
    have first_of_start : character ∈ (trimStart drop text).head? := by
      rw [Option.mem_def, trim] at first
      rw [split, List.head?_append, first]
      rfl
    exact head?_trimStart first_of_start
  last_kept := by
    intro character last
    rw [trim, trimEnd, List.getLast?_reverse] at last
    exact head?_trimStart last

theorem trim_eq_self_iff {drop : Char → Bool} {text : List Char} :
    trim drop text = text ↔ IsTrimmed drop text := by
  constructor
  · intro unchanged
    rw [← unchanged]
    exact isTrimmed_trim drop text
  · intro trimmed
    rw [trim, trimStart_eq_self_iff.mpr trimmed.head_kept,
      trimEnd_eq_self_iff.mpr trimmed.last_kept]

theorem exists_eq_append_trim (drop : Char → Bool) (text : List Char) :
    ∃ before after, text = before ++ (trim drop text ++ after) ∧
      (∀ character ∈ before, drop character = true) ∧
      ∀ character ∈ after, drop character = true := by
  obtain ⟨after, split, after_dropped⟩ := exists_eq_trimEnd_append drop (trimStart drop text)
  refine ⟨text.takeWhile drop, after, ?_, fun _ => List.mem_takeWhile_imp, after_dropped⟩
  rw [trim, ← split, trimStart, List.takeWhile_append_dropWhile]

/-- What surrounds a trimmed text is dropped, and nothing of the text is. -/
theorem trim_append_append {drop : Char → Bool} {text : List Char} (trimmed : IsTrimmed drop text)
    (nonempty : text ≠ []) {before after : List Char}
    (before_dropped : ∀ character ∈ before, drop character = true)
    (after_dropped : ∀ character ∈ after, drop character = true) :
    trim drop (before ++ (text ++ after)) = text := by
  have kept : trimStart drop (text ++ after) = text ++ after := by
    refine trimStart_eq_self_iff.mpr fun character first => ?_
    rw [List.head?_append_of_ne_nil _ nonempty] at first
    exact trimmed.head_kept character first
  rw [trim, trimStart, List.dropWhile_append_of_pos before_dropped, ← trimStart, kept,
    trimEnd_append_of_forall after_dropped, trimEnd_eq_self_iff.mpr trimmed.last_kept]

/-! ## Words -/

/-- A blank character separates the words before it from those behind it. -/
theorem words_append_cons {separator : Char} (blank : isBlank separator = true)
    (front back : List Char) : words (front ++ separator :: back) = words front ++ words back := by
  rw [words, List.splitOnP_append_cons front back blank, List.filter_append, words, words]

theorem words_of_unbroken {word : List Char} (nonempty : word ≠ [])
    (unbroken : ∀ character ∈ word, isBlank character = false) : words word = [word] := by
  rw [words, List.splitOnP_eq_singleton unbroken]
  simpa using nonempty

theorem unbroken_of_mem_words {text word : List Char} (word_mem : word ∈ words text) :
    word ≠ [] ∧ word ⊆ text ∧ ∀ character ∈ word, isBlank character = false := by
  obtain ⟨field_mem, nonempty⟩ := List.mem_filter.mp word_mem
  obtain ⟨front, back, rfl, -, unbroken, -⟩ := mem_splitOnP_iff.mp field_mem
  refine ⟨by simpa using nonempty, ?_, unbroken⟩
  exact fun character mem => List.mem_append_right _ (List.mem_append_left _ mem)

/-- Words that are written with a space between any two of them are read again. -/
theorem words_intercalate {parts : List (List Char)} (are_words : ∀ word ∈ parts,
    word ≠ [] ∧ ∀ character ∈ word, isBlank character = false) :
    words ([' '].intercalate parts) = parts := by
  induction parts with
  | nil => rfl
  | cons first others induction =>
      obtain ⟨⟨nonempty, unbroken⟩, others_words⟩ := List.forall_mem_cons.mp are_words
      have first_alone := words_of_unbroken nonempty unbroken
      cases others with
      | nil => rw [List.intercalate_singleton, first_alone]
      | cons second others =>
          rw [List.intercalate_cons_cons, List.append_assoc, List.singleton_append,
            words_append_cons (by decide), induction others_words, first_alone,
            List.singleton_append]

end DiffReview.Text
