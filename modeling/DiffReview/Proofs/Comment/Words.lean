import DiffReview.Comment.Similarity
import DiffReview.Proofs.Comment.Merge
import DiffReview.Proofs.Summary.Separated
import DiffReview.Proofs.Text.Blank
import DiffReview.Proofs.Text.LetterCase
import Mathlib.Data.String.Basic
import Mathlib.Logic.Relation

/-!
# Significant words

The significant words of a text are a normal form of it: written in any order, they are their own
significant words.  Marks, which are the characters that are deleted from a text, make no
difference, nor does the case of the letters of an ASCII text; so two comments that differ in marks
alone are as similar as two comments can be.
-/

namespace DiffReview

open Text (isBlank isAscii lower lowerCharacter)

/-! ## Sets of words -/

section Sets

variable {texts others : List String} {text : String}

theorem mem_distinctSorted_iff : text ∈ distinctSorted texts ↔ text ∈ texts := by
  simp [distinctSorted]

theorem nodup_distinctSorted (texts : List String) : (distinctSorted texts).Nodup :=
  (List.mergeSort_perm _ _).nodup_iff.mpr (nodup_eraseDups texts)

theorem pairwise_distinctSorted (texts : List String) :
    (distinctSorted texts).Pairwise (· ≤ ·) := by
  refine (List.pairwise_mergeSort ?_ ?_ texts.eraseDups).imp of_decide_eq_true
  · simpa only [decide_eq_true_eq] using fun _ _ _ => le_trans
  · simpa only [Bool.or_eq_true, decide_eq_true_eq] using le_total

/-- The same texts are the same set, in whatever order and however often they come. -/
theorem distinctSorted_congr (same : ∀ text, text ∈ texts ↔ text ∈ others) :
    distinctSorted texts = distinctSorted others := by
  have perm : (distinctSorted texts).Perm (distinctSorted others) := by
    rw [List.perm_ext_iff_of_nodup (nodup_distinctSorted _) (nodup_distinctSorted _)]
    simpa only [mem_distinctSorted_iff] using same
  exact perm.eq_of_pairwise (fun _ _ _ _ => le_antisymm) (pairwise_distinctSorted _)
    (pairwise_distinctSorted _)

end Sets

/-! ## Texts without marks -/

/-- A character that leaves nothing in the words of a text: it is not blank, and in small letters
there is nothing plain in it. -/
def IsMark (character : Char) : Prop :=
  isBlank character = false ∧ ∀ lowered ∈ lowerCharacter character, isPlain lowered = false

instance (character : Char) : Decidable (IsMark character) :=
  decidable_of_iff (isBlank character = false ∧ (lowerCharacter character).all (!isPlain ·) = true)
    (by simp [IsMark])

section Normalize

variable {character : Char} {text : List Char}

theorem normalize_append (left right : List Char) :
    normalize (left ++ right) = normalize left ++ normalize right := by
  simp [normalize, lower]

theorem normalize_of_isMark (mark : IsMark character) : normalize [character] = [] := by
  rw [normalize, List.filter_eq_nil_iff]
  intro lowered lowered_mem
  replace lowered_mem : lowered ∈ lowerCharacter character := by simpa [lower] using lowered_mem
  simp [mark.2 lowered lowered_mem, Text.isBlank_of_mem_lowerCharacter mark.1 lowered_mem]

-- The Kelvin sign and the dotted capital I are no marks: their small letters are a k and an i.
example : IsMark '-' ∧ IsMark 'é' ∧ ¬IsMark '\u212a' ∧ ¬IsMark '\u0130' := by
  decide +kernel

theorem isPlain_iff :
    isPlain character = true ↔
      'a' ≤ character ∧ character ≤ 'z' ∨ '0' ≤ character ∧ character ≤ '9' := by
  have unfolded : isPlain character = (decide ('a' ≤ character) && decide (character ≤ 'z') ||
      decide ('0' ≤ character) && decide (character ≤ '9')) := rfl
  simp only [unfolded, Bool.or_eq_true, Bool.and_eq_true, decide_eq_true_eq]

theorem isAscii_of_isPlain (plain : isPlain character = true) : isAscii character = true := by
  have small : character ≤ 'z' := by
    rcases isPlain_iff.mp plain with ⟨-, letter⟩ | ⟨-, digit⟩
    · exact letter
    · exact digit.trans (by decide)
  exact decide_eq_true (Nat.lt_of_le_of_lt (UInt32.le_iff_toNat_le.mp small) (by decide))

theorem isBlank_of_isPlain (plain : isPlain character = true) : isBlank character = false := by
  have apart := Text.of_isAscii (fun character => !isPlain character || !isBlank character)
    (by decide +kernel) (isAscii_of_isPlain plain)
  simpa [plain] using apart

theorem lowerCharacter_of_isPlain (plain : isPlain character = true) :
    lowerCharacter character = [character] := by
  have unchanged := Text.of_isAscii (fun character =>
    !isPlain character || lowerCharacter character == [character]) (by decide +kernel)
    (isAscii_of_isPlain plain)
  simpa [plain] using unchanged

/-- A text of plain characters and spaces is left as it is. -/
theorem normalize_eq_self (kept : ∀ character ∈ text, isPlain character = true ∨ character = ' ') :
    normalize text = text := by
  induction text with
  | nil => rfl
  | cons character text induction =>
      obtain ⟨first_kept, others_kept⟩ := List.forall_mem_cons.mp kept
      have first_unchanged : normalize [character] = [character] := by
        rcases first_kept with plain | rfl
        · simp [normalize, lower, lowerCharacter_of_isPlain plain, plain]
        · decide +kernel
      rw [← List.singleton_append, normalize_append, first_unchanged, induction others_kept]

/-- Words of plain characters are read again when they are written with spaces between them. -/
theorem words_normalize_intercalate {parts : List (List Char)} (are_plain : ∀ word ∈ parts,
    word ≠ [] ∧ ∀ character ∈ word, isPlain character = true) :
    Text.words (normalize ([' '].intercalate parts)) = parts := by
  have are_words : ∀ word ∈ parts,
      word ≠ [] ∧ ∀ character ∈ word, isBlank character = false := fun word word_mem =>
    (are_plain word word_mem).imp_right fun plain character mem =>
      isBlank_of_isPlain (plain character mem)
  have separable : AreSeparable ' ' parts := fun word word_mem =>
    (are_words word word_mem).imp_right fun unbroken space_mem =>
      absurd (unbroken ' ' space_mem) (by decide)
  have kept : ∀ character ∈ [' '].intercalate parts,
      isPlain character = true ∨ character = ' ' := by
    intro character mem
    rcases separable.eq_or_mem_of_mem_intercalate mem with is_space | mem
    · exact .inr is_space
    · obtain ⟨word, word_mem, mem⟩ := List.mem_flatten.mp mem
      exact .inl ((are_plain word word_mem).2 character mem)
  rw [normalize_eq_self kept, Text.words_intercalate are_words]

end Normalize

/-! ## Significant words -/

section SignificantWords

variable {text other : String}

theorem mem_significantWords_iff {word : String} :
    word ∈ significantWords text ↔
      minimumWordLength ≤ word.length ∧ word.toList ∈ Text.words (normalize text.toList) := by
  simp only [significantWords, mem_distinctSorted_iff, List.mem_map, List.mem_filter,
    decide_eq_true_eq]
  constructor
  · rintro ⟨word, ⟨word_mem, long⟩, rfl⟩
    rw [String.length_ofList, String.toList_ofList]
    exact ⟨long, word_mem⟩
  · rintro ⟨long, word_mem⟩
    exact ⟨word.toList, ⟨word_mem, by rwa [String.length_toList]⟩, String.ofList_toList⟩

/-- The words of a normalized text are made of plain characters. -/
theorem isPlain_of_mem_words {text word : List Char} (word_mem : word ∈ Text.words (normalize text))
    {character : Char} (mem : character ∈ word) : isPlain character = true := by
  obtain ⟨-, within, unbroken⟩ := Text.unbroken_of_mem_words word_mem
  have kept := (List.mem_filter.mp (within mem)).2
  rwa [unbroken character mem, Bool.or_false] at kept

theorem significantWords_congr (same : normalize text.toList = normalize other.toList) :
    significantWords text = significantWords other := by
  rw [significantWords, same, significantWords]

/-- Significant words are written and read again, in whatever order they come. -/
theorem significantWords_intercalate {order : List String}
    (perm : order.Perm (significantWords text)) :
    significantWords (" ".intercalate order) = significantWords text := by
  have significant : ∀ word ∈ order, minimumWordLength ≤ word.length ∧
      word.toList ∈ Text.words (normalize text.toList) :=
    fun word mem => mem_significantWords_iff.mp (perm.mem_iff.mp mem)
  have words_eq : Text.words (normalize (" ".intercalate order).toList) =
      order.map String.toList := by
    rw [String.toList_intercalate]
    refine words_normalize_intercalate fun _ mem => ?_
    obtain ⟨word, word_mem, rfl⟩ := List.mem_map.mp mem
    have read := (significant word word_mem).2
    exact ⟨(Text.unbroken_of_mem_words read).1, fun _ => isPlain_of_mem_words read⟩
  have long_eq : (order.map String.toList).filter (fun word => minimumWordLength ≤ word.length) =
      order.map String.toList := by
    rw [List.filter_eq_self]
    intro _ mem
    obtain ⟨word, word_mem, rfl⟩ := List.mem_map.mp mem
    rw [String.length_toList]
    exact decide_eq_true (significant word word_mem).1
  have read_eq : significantWords (" ".intercalate order) = distinctSorted order := by
    rw [significantWords, words_eq, long_eq]
    simp
  rw [read_eq, significantWords]
  refine distinctSorted_congr fun word => perm.mem_iff.trans ?_
  rw [significantWords, mem_distinctSorted_iff]

end SignificantWords

/-! ## Texts that differ in marks or in case -/

/-- The second text has one mark more than the first. -/
def AddsMark (text marked : String) : Prop :=
  ∃ front mark back, IsMark mark ∧ text.toList = front ++ back ∧
    marked.toList = front ++ mark :: back

/-- The texts can be made equal by inserting marks. -/
def DifferInMarks : String → String → Prop :=
  Relation.EqvGen AddsMark

/-- The second text is the first one with some letters in capital or in small letters. -/
def IsRecased (text recased : String) : Prop :=
  List.Forall₂ (fun character other => other ∈ [character, character.toUpper, character.toLower])
    text.toList recased.toList

section Variants

variable {text other : String}

theorem AddsMark.significantWords_eq (adds : AddsMark text other) :
    significantWords text = significantWords other := by
  obtain ⟨front, mark, back, is_mark, text_eq, other_eq⟩ := adds
  refine significantWords_congr ?_
  rw [text_eq, other_eq, ← List.singleton_append, normalize_append, normalize_append,
    normalize_append, normalize_of_isMark is_mark, List.nil_append]

theorem DifferInMarks.significantWords_eq (differ : DifferInMarks text other) :
    significantWords text = significantWords other := by
  induction differ with
  | rel _ _ adds => exact adds.significantWords_eq
  | refl => rfl
  | symm _ _ _ induction => exact induction.symm
  | trans _ _ _ _ _ first second => exact first.trans second

theorem lower_eq_of_recased {left right : List Char}
    (recased : List.Forall₂
      (fun character other => other ∈ [character, character.toUpper, character.toLower]) left right)
    (ascii : ∀ character ∈ left, isAscii character = true) : lower left = lower right := by
  induction recased with
  | nil => rfl
  | cons variant _ induction =>
      obtain ⟨first_ascii, others_ascii⟩ := List.forall_mem_cons.mp ascii
      refine congrArg₂ (· ++ ·) ?_ (induction others_ascii)
      simp only [List.mem_cons, List.not_mem_nil, or_false] at variant
      rcases variant with rfl | rfl | rfl
      · rfl
      · exact (Text.lowerCharacter_toUpper first_ascii).symm
      · exact (Text.lowerCharacter_toLower first_ascii).symm

theorem IsRecased.significantWords_eq (ascii : ∀ character ∈ text.toList, isAscii character = true)
    (recased : IsRecased text other) : significantWords text = significantWords other := by
  apply significantWords_congr
  rw [normalize, lower_eq_of_recased recased ascii, normalize]

end Variants

/-! ## How similar a set of words is to itself -/

namespace Number

theorem roundQuotient_mul (factor : Nat) {denominator : Nat} (positive : 0 < denominator) :
    roundQuotient (denominator * factor) denominator = factor := by
  simp [roundQuotient, positive]

theorem log2Quotient_self (number : Nat) : log2Quotient number number = 0 := by
  simp [log2Quotient]

theorem quotientBits_self {number : Nat} (positive : 0 < number) :
    quotientBits number number = 1023 * Nat.pow 2 52 := by
  have mantissa_eq : roundQuotient (number * Nat.pow 2 52) (number * Nat.pow 2 0) =
      Nat.pow 2 52 := by
    rw [show Nat.pow 2 0 = 1 from rfl, Nat.mul_one, roundQuotient_mul _ positive]
  rw [quotientBits, if_neg positive.ne', log2Quotient_self]
  exact (congrArg (fun mantissa => min (1022 * Nat.pow 2 52 + mantissa) Binary64.infiniteSize)
    mantissa_eq).trans (by decide)

/-- The quotient of a number by itself is exactly one. -/
theorem nearestQuotient_self {number : Nat} (positive : 0 < number) :
    nearestQuotient number number = 1 := by
  rw [nearestQuotient, quotientBits_self positive, ← quotientBits_self Nat.one_pos]
  rfl

end Number

theorem wordSimilarity_self (words : List String) :
    wordSimilarity words words = if words = [] then 0 else 1 := by
  have all_eq : allWords words words = words := by simp [allWords]
  have common_eq : commonWords words words = words := by simp [commonWords]
  rw [wordSimilarity, all_eq, common_eq]
  by_cases none_there : words = []
  · rw [none_there]
    rfl
  · rw [if_neg none_there, if_neg (by simpa using none_there),
      Number.nearestQuotient_self (List.length_pos_iff.mpr none_there)]

/-- Significant words are plain and not short, and written in any order they are their own
significant words.  Neither marks nor the case of ASCII letters make a difference to them; so two
comments that differ in marks alone have the same words, and are fully similar if they have any and
not similar at all if they have none. -/
theorem significantWords_are_normal_form :
    (∀ text, ∀ word ∈ significantWords text, 4 ≤ word.length ∧
        ∀ character ∈ word.toList, 'a' ≤ character ∧ character ≤ 'z' ∨
          '0' ≤ character ∧ character ≤ '9') ∧
      (∀ text order, order.Perm (significantWords text) →
        significantWords (" ".intercalate order) = significantWords text) ∧
      (∀ text marked, AddsMark text marked → significantWords marked = significantWords text) ∧
      (∀ text recased, (∀ character ∈ text.toList, isAscii character = true) →
        IsRecased text recased → significantWords recased = significantWords text) ∧
      ∀ left right : Comment, DifferInMarks left.body right.body →
        left.words = right.words ∧
          (left.words ≠ [] → left.similarity right = 1) ∧
          (left.words = [] → left.similarity right = 0) := by
  refine ⟨?_, fun _ _ => significantWords_intercalate,
    fun _ _ adds => adds.significantWords_eq.symm,
    fun _ _ ascii recased => (recased.significantWords_eq ascii).symm, ?_⟩
  · intro text word word_mem
    obtain ⟨long, word_mem⟩ := mem_significantWords_iff.mp word_mem
    exact ⟨long, fun character mem => isPlain_iff.mp (isPlain_of_mem_words word_mem mem)⟩
  · intro left right differ
    have words_eq : left.words = right.words := differ.significantWords_eq
    have similarity_eq : left.similarity right = if left.words = [] then 0 else 1 := by
      rw [Comment.similarity, ← words_eq, wordSimilarity_self]
    refine ⟨words_eq, ?_, ?_⟩
    · exact fun some_there => similarity_eq.trans (if_neg some_there)
    · exact fun none_there => similarity_eq.trans (if_pos none_there)

end DiffReview
