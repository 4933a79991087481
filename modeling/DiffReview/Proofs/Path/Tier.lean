import DiffReview.Proofs.Path.Exclusion
import Mathlib.Order.Bounds.Basic

/-!
# How early files are reviewed

Files that look like tests are reviewed last.  A path looks so exactly if one of its tokens is a
word for a test; a word that merely holds one, such as `latest`, does not count.  Every other file
is reviewed as early as the earliest tier demands one of whose keywords stands in its path, so that
a directory put before the path can only bring the file forward, unless the directory looks like
tests.
-/

namespace DiffReview

namespace Text

variable {letters more text : List Char}

theorem equalsFolded_append :
    equalsFolded (letters ++ more) text = true ↔
      ∃ left right, text = left ++ right ∧ equalsFolded letters left = true ∧
        equalsFolded more right = true := by
  induction letters generalizing text with
  | nil =>
      constructor
      · exact fun equal => ⟨[], text, rfl, rfl, equal⟩
      · rintro ⟨left, right, rfl, left_equal, right_equal⟩
        cases left with
        | nil => exact right_equal
        | cons => simp [equalsFolded] at left_equal
  | cons letter letters induction =>
      cases text with
      | nil => simp [equalsFolded]
      | cons character text =>
          rw [List.cons_append, equalsFolded, Bool.and_eq_true, induction]
          constructor
          · rintro ⟨accepted, left, right, rfl, left_equal, right_equal⟩
            exact ⟨character :: left, right, rfl,
              Bool.and_eq_true_iff.mpr ⟨accepted, left_equal⟩, right_equal⟩
          · rintro ⟨left, right, split, left_equal, right_equal⟩
            cases left with
            | nil => simp [equalsFolded] at left_equal
            | cons first left =>
                obtain ⟨rfl, rfl⟩ := List.cons.inj split
                obtain ⟨accepted, others_equal⟩ := Bool.and_eq_true_iff.mp left_equal
                exact ⟨accepted, left, right, rfl, others_equal, right_equal⟩

theorem exists_matchesFolded_of_equalsFolded (equal : equalsFolded letters text = true) :
    ∀ character ∈ text, ∃ letter ∈ letters, matchesFolded letter character = true := by
  induction letters generalizing text with
  | nil => cases text with
    | nil => exact nofun
    | cons => simp [equalsFolded] at equal
  | cons letter letters induction =>
      cases text with
      | nil => exact nofun
      | cons first others =>
          obtain ⟨accepted, others_equal⟩ := Bool.and_eq_true_iff.mp equal
          rw [List.forall_mem_cons]
          refine ⟨⟨letter, List.mem_cons_self, accepted⟩, fun character mem => ?_⟩
          obtain ⟨other, other_mem, other_accepted⟩ := induction others_equal character mem
          exact ⟨other, List.mem_cons_of_mem _ other_mem, other_accepted⟩

end Text

namespace Path

open Text (StartsField EndsField equalsFolded)

/-! ## Words for tests -/

/-- The tokens of a path, between the characters that separate tokens. -/
def tokens (path : List Char) : List (List Char) :=
  path.splitOnP isTokenSeparator

/-- Disregarding case, the token is a word for a test or its plural. -/
def IsTestWord (token : List Char) : Prop :=
  ∃ word ∈ testWords, equalsFolded word.toList token = true ∨
    equalsFolded (word.toList ++ ['s']) token = true

instance (token : List Char) : Decidable (IsTestWord token) :=
  inferInstanceAs (Decidable (∃ word ∈ testWords, equalsFolded word.toList token = true ∨
    equalsFolded (word.toList ++ ['s']) token = true))

theorem matchesFolded_eq_false_of_isTokenSeparator {character : Char}
    (separates : isTokenSeparator character = true) :
    ∀ word ∈ testWords, ∀ letter ∈ word.toList ++ ['s'],
      Text.matchesFolded letter character = false := by
  have separator_mem : character ∈ ['/', '_', '.', '-'] := by
    simpa [isTokenSeparator, or_assoc] using separates
  have differs : (['/', '_', '.', '-'].all fun separator => testWords.all fun word =>
      (word.toList ++ ['s']).all fun letter => !Text.matchesFolded letter separator) = true := by
    decide +kernel
  simp only [List.all_eq_true, Bool.not_eq_true'] at differs
  exact differs character separator_mem

theorem IsTestWord.unbroken {token : List Char} (is_word : IsTestWord token) :
    ∀ character ∈ token, isTokenSeparator character = false := by
  obtain ⟨word, word_mem, equal⟩ := is_word
  intro character mem
  by_contra separates
  rw [Bool.not_eq_false] at separates
  have differs := matchesFolded_eq_false_of_isTokenSeparator separates word word_mem
  rcases equal with equal | equal <;>
    obtain ⟨letter, letter_mem, same⟩ :=
      Text.exists_matchesFolded_of_equalsFolded equal character mem
  · rw [differs letter (List.mem_append_left _ letter_mem)] at same
    contradiction
  · rw [differs letter letter_mem] at same
    contradiction

section Reading

variable {before : Option Char} {piece rest text : List Char}

theorem reads_testWords_iff :
    (Pattern.anyOf (testWords.map fun word =>
        .sequence [.folded word, .optional (.folded "s")])).Reads before piece rest ↔
      IsTestWord piece := by
  have plural_iff : ∀ word : String,
      (Pattern.sequence [.folded word, .optional (.folded "s")]).Reads before piece rest ↔
        equalsFolded word.toList piece = true ∨
          equalsFolded (word.toList ++ ['s']) piece = true := by
    intro word
    simp only [Pattern.reads_sequence_pair, Pattern.reads_optional, Pattern.reads_folded,
      Text.equalsFolded_append]
    constructor
    · rintro ⟨left, right, rfl, equal, ending | rfl⟩
      · exact .inr ⟨left, right, rfl, equal, ending⟩
      · rw [List.append_nil]
        exact .inl equal
    · rintro (equal | ⟨left, right, rfl, equal, ending⟩)
      · exact ⟨piece, [], (List.append_nil piece).symm, equal, .inr rfl⟩
      · exact ⟨left, right, rfl, equal, .inl ending⟩
  simp only [Pattern.reads_anyOf, List.mem_map, exists_exists_and_eq_and, plural_iff, IsTestWord]

theorem reads_tokenEnd_iff :
    (Pattern.alt (.one isTokenSeparator) .textEnd).Reads before piece rest ↔
      (∃ separator, isTokenSeparator separator = true ∧ piece = [separator]) ∨
        piece = [] ∧ IsEnd rest := by
  simp [Pattern.textEnd, Pattern.Reads, Cursor.atEnd, IsEnd]

/-- A path looks like a test exactly if a word for a test stands where a token can start, and ends
where a token can end. -/
theorem occursIn_testLikePath_iff :
    testLikePath.occursIn text = true ↔
      ∃ front word back, text = front ++ (word ++ back) ∧ StartsField isTokenSeparator front ∧
        IsTestWord word ∧ (EndsField isTokenSeparator back ∨ IsEnd back) := by
  rw [testLikePath, occursIn_partStart_iff]
  simp only [Pattern.reads_sequence_pair, reads_testWords_iff, reads_tokenEnd_iff]
  constructor
  · rintro ⟨front, _, rest, rfl, starts, word, ending, rfl, is_word,
      ⟨separator, separates, rfl⟩ | ⟨rfl, is_end⟩⟩
    · exact ⟨front, word, separator :: rest, by simp, starts, is_word,
        .inl (Text.endsField_cons separates)⟩
    · exact ⟨front, word, rest, by simp, starts, is_word, .inr is_end⟩
  · rintro ⟨front, word, back, rfl, starts, is_word, ends⟩
    rcases ends with ends | is_end
    · rcases ends.eq_nil_or_cons with rfl | ⟨separator, others, separates, rfl⟩
      · exact ⟨front, word, [], by simp, starts, word, [], by simp, is_word, .inr ⟨rfl, .inl rfl⟩⟩
      · exact ⟨front, word ++ [separator], others, by simp, starts, word, [separator], rfl, is_word,
          .inl ⟨separator, separates, rfl⟩⟩
    · exact ⟨front, word, back, rfl, starts, word, [], by simp, is_word, .inr ⟨rfl, is_end⟩⟩

/-- In a path of one line the words for tests are found among the tokens. -/
theorem occursIn_testLikePath_iff_of_one_line (one_line : '\n' ∉ text) :
    testLikePath.occursIn text = true ↔ ∃ token ∈ tokens text, IsTestWord token := by
  simp only [occursIn_testLikePath_iff, tokens, Text.mem_splitOnP_iff]
  constructor
  · rintro ⟨front, word, back, rfl, starts, is_word, ends⟩
    refine ⟨word, ⟨front, back, rfl, starts, is_word.unbroken, ?_⟩, is_word⟩
    rcases ends with ends | rfl | rfl
    · exact ends
    · exact Text.endsField_nil
    · simp at one_line
  · rintro ⟨word, ⟨front, back, rfl, starts, -, ends⟩, is_word⟩
    exact ⟨front, word, back, rfl, starts, is_word, .inl ends⟩

end Reading

/-! ## Tiers -/

namespace Tier

/-- Disregarding case, a keyword of the tier stands somewhere in the path. -/
def HasKeyword (tier : Tier) (path : List Char) : Prop :=
  ∃ keyword ∈ tier.keywords, ∃ front word back, path = front ++ (word ++ back) ∧
    equalsFolded keyword.toList word = true

variable {found other : Tier} {path : List Char}

theorem isNamedIn_eq_true_iff : found.isNamedIn path = true ↔ found.HasKeyword path := by
  rw [isNamedIn, Pattern.occursIn_iff_reads, HasKeyword]
  simp only [Pattern.reads_anyWord]
  constructor
  · rintro ⟨front, word, back, path_eq, keyword, mem, equal⟩
    exact ⟨keyword, mem, front, word, back, path_eq, equal⟩
  · rintro ⟨keyword, mem, front, word, back, path_eq, equal⟩
    exact ⟨front, word, back, path_eq, keyword, mem, equal⟩

/-- Only the four earliest tiers have keywords. -/
theorem HasKeyword.rank_le (named : found.HasKeyword path) : found.rank ≤ 3 := by
  obtain ⟨keyword, mem, -⟩ := named
  cases found with
  | security | interface | data | support => decide
  | general | testLike => exact absurd mem List.not_mem_nil

theorem HasKeyword.join (named : found.HasKeyword path) (directory : List Char) :
    found.HasKeyword (directory ++ '/' :: path) := by
  obtain ⟨keyword, mem, front, word, back, rfl, equal⟩ := named
  exact ⟨keyword, mem, directory ++ '/' :: front, word, back, by simp, equal⟩

theorem mem_all (found : Tier) : found ∈ all := by
  cases found <;> decide

/-- The first of all tiers that satisfies a condition is the earliest that does. -/
theorem rank_le_of_find? {holds : Tier → Bool} (first : all.find? holds = some found)
    (other_holds : holds other = true) : found.rank ≤ other.rank := by
  obtain ⟨-, earlier, later, all_eq, earlier_fail⟩ := List.find?_eq_some_iff_append.mp first
  have in_order : all.Pairwise fun tier later => tier.rank ≤ later.rank := by decide
  have other_mem := mem_all other
  rw [all_eq] at in_order other_mem
  rcases List.mem_append.mp other_mem with mem | mem
  · exact absurd (earlier_fail other mem) (by simp [other_holds])
  · rcases List.mem_cons.mp mem with rfl | mem
    · exact le_rfl
    · exact List.rel_of_pairwise_cons (List.pairwise_append.mp in_order).2.1 mem

end Tier

section Tiers

variable {path : String}

theorem tier_eq_testLike (test_like : testLikePath.occursIn path.toList = true) :
    tier path = .testLike :=
  if_pos test_like

/-- A path that does not look like a test is of the first tier that has a keyword in it. -/
theorem find?_eq_some_tier (not_test_like : ¬testLikePath.occursIn path.toList = true)
    {found : Tier} (named : found.HasKeyword path.toList) :
    Tier.all.find? (fun tier => tier.isNamedIn path.toList) = some (tier path) := by
  cases first : Tier.all.find? (fun tier => tier.isNamedIn path.toList) with
  | none =>
      have unnamed := List.find?_eq_none.mp first found found.mem_all
      exact absurd (Tier.isNamedIn_eq_true_iff.mpr named) unnamed
  | some earliest => rw [tier, if_neg not_test_like, first, Option.getD_some]

theorem hasKeyword_tier (not_test_like : ¬testLikePath.occursIn path.toList = true)
    {found : Tier} (named : found.HasKeyword path.toList) :
    (tier path).HasKeyword path.toList := by
  have first := find?_eq_some_tier not_test_like named
  exact Tier.isNamedIn_eq_true_iff.mp
    (List.find?_some (p := fun found : Tier => found.isNamedIn path.toList) first)

theorem rank_tier_le (not_test_like : ¬testLikePath.occursIn path.toList = true)
    {found : Tier} (named : found.HasKeyword path.toList) : (tier path).rank ≤ found.rank :=
  Tier.rank_le_of_find? (find?_eq_some_tier not_test_like named)
    (Tier.isNamedIn_eq_true_iff.mpr named)

theorem tier_eq_general (not_test_like : ¬testLikePath.occursIn path.toList = true)
    (unnamed : ∀ found : Tier, ¬found.HasKeyword path.toList) : tier path = .general := by
  have none_found : Tier.all.find? (fun tier => tier.isNamedIn path.toList) = none := by
    rw [List.find?_eq_none]
    exact fun found _ named => unnamed found (Tier.isNamedIn_eq_true_iff.mp named)
  rw [tier, if_neg not_test_like, none_found, Option.getD_none]

theorem rank_tier_le_four (not_test_like : ¬testLikePath.occursIn path.toList = true) :
    (tier path).rank ≤ 4 := by
  by_cases named : ∃ found : Tier, found.HasKeyword path.toList
  · obtain ⟨found, named⟩ := named
    exact (hasKeyword_tier not_test_like named).rank_le.trans (by decide)
  · rw [tier_eq_general not_test_like (not_exists.mp named)]
    decide

theorem rank_tier_eq_five_iff :
    (tier path).rank = 5 ↔ testLikePath.occursIn path.toList = true := by
  constructor
  · intro last
    by_contra not_test_like
    exact absurd (rank_tier_le_four not_test_like) (by rw [last]; decide)
  · intro test_like
    rw [tier_eq_testLike test_like]
    rfl

/-- A path that does not look like a test has the rank of the earliest tier with a keyword in it. -/
theorem isLeast_rank_tier (not_test_like : ¬testLikePath.occursIn path.toList = true)
    (named : ∃ found : Tier, found.HasKeyword path.toList) :
    IsLeast {rank | rank ≤ 3 ∧ ∃ found : Tier, found.HasKeyword path.toList ∧ found.rank = rank}
      (tier path).rank := by
  obtain ⟨found, named⟩ := named
  have named_tier := hasKeyword_tier not_test_like named
  refine ⟨⟨named_tier.rank_le, tier path, named_tier, rfl⟩, ?_⟩
  rintro _ ⟨-, other, other_named, rfl⟩
  exact rank_tier_le not_test_like other_named

/-! ## A directory before a path -/

/-- A path that looks like a test does so in every directory. -/
theorem occursIn_testLikePath_join {path : List Char}
    (test_like : testLikePath.occursIn path = true) (directory : List Char) :
    testLikePath.occursIn (directory ++ '/' :: path) = true := by
  rw [occursIn_testLikePath_iff] at test_like ⊢
  obtain ⟨front, word, back, rfl, starts, is_word, ends⟩ := test_like
  exact ⟨directory ++ '/' :: front, word, back, by simp,
    (Text.startsField_append_cons_iff rfl).mpr starts, is_word, ends⟩

theorem rank_tier_join_le {directory : String}
    (not_test_like : ¬testLikePath.occursIn (directory ++ "/" ++ path).toList = true) :
    (tier (directory ++ "/" ++ path)).rank ≤ (tier path).rank := by
  have path_not_test_like : ¬testLikePath.occursIn path.toList = true := by
    rw [toList_join] at not_test_like
    exact fun test_like => not_test_like (occursIn_testLikePath_join test_like _)
  by_cases named : ∃ found : Tier, found.HasKeyword path.toList
  · obtain ⟨found, named⟩ := named
    have named_in_join := (hasKeyword_tier path_not_test_like named).join directory.toList
    rw [← toList_join] at named_in_join
    exact rank_tier_le not_test_like named_in_join
  · rw [tier_eq_general path_not_test_like (not_exists.mp named)]
    exact rank_tier_le_four not_test_like

end Tiers

/-- A file is reviewed last exactly if a token of its path is a word for a test.  Otherwise its rank
is that of the earliest tier with a keyword in the path, or the last but one if there is none.  In
another directory it is reviewed no later, unless it comes to look like a test, and it still does
if it did. -/
theorem rank_tier_of_one_line {path : String} (one_line : '\n' ∉ path.toList) :
    ((tier path).rank = 5 ↔ ∃ token ∈ tokens path.toList, IsTestWord token) ∧
      ((∀ token ∈ tokens path.toList, ¬IsTestWord token) →
        ((∃ found : Tier, found.HasKeyword path.toList) →
            IsLeast {rank | rank ≤ 3 ∧
              ∃ found : Tier, found.HasKeyword path.toList ∧ found.rank = rank}
              (tier path).rank) ∧
          ((∀ found : Tier, ¬found.HasKeyword path.toList) → (tier path).rank = 4)) ∧
      ∀ directory : String,
        ((tier (directory ++ "/" ++ path)).rank = 5 ∨
            (tier (directory ++ "/" ++ path)).rank ≤ (tier path).rank) ∧
          ((tier path).rank = 5 → (tier (directory ++ "/" ++ path)).rank = 5) := by
  have last_iff : (tier path).rank = 5 ↔ ∃ token ∈ tokens path.toList, IsTestWord token := by
    rw [rank_tier_eq_five_iff, occursIn_testLikePath_iff_of_one_line one_line]
  refine ⟨last_iff, fun no_word => ?_, fun directory => ⟨?_, ?_⟩⟩
  · have not_test_like : ¬testLikePath.occursIn path.toList = true := by
      rw [← rank_tier_eq_five_iff, last_iff]
      exact fun ⟨token, mem, is_word⟩ => no_word token mem is_word
    exact ⟨isLeast_rank_tier not_test_like,
      fun unnamed => congrArg Tier.rank (tier_eq_general not_test_like unnamed)⟩
  · rw [rank_tier_eq_five_iff]
    exact Decidable.or_iff_not_imp_left.mpr rank_tier_join_le
  · rw [rank_tier_eq_five_iff, rank_tier_eq_five_iff, toList_join]
    exact fun test_like => occursIn_testLikePath_join test_like _

theorem rank_tier_latest_oauth :
    (tier "src/latest/oauth.ts").rank ≠ 5 ∧
      IsLeast {rank | rank ≤ 3 ∧
          ∃ found : Tier, found.HasKeyword "src/latest/oauth.ts".toList ∧ found.rank = rank}
        (tier "src/latest/oauth.ts").rank ∧
      ∀ directory : String,
        (tier (directory ++ "/" ++ "src/latest/oauth.ts")).rank = 5 ∨
          (tier (directory ++ "/" ++ "src/latest/oauth.ts")).rank ≤
            (tier "src/latest/oauth.ts").rank := by
  obtain ⟨last_iff, otherwise, joined⟩ :=
    @rank_tier_of_one_line "src/latest/oauth.ts" (by decide +kernel)
  have no_word : ∀ token ∈ tokens "src/latest/oauth.ts".toList, ¬IsTestWord token := by
    decide +kernel
  have named : Tier.security.HasKeyword "src/latest/oauth.ts".toList :=
    Tier.isNamedIn_eq_true_iff.mp (by decide +kernel)
  refine ⟨?_, (otherwise no_word).1 ⟨.security, named⟩, fun directory => (joined directory).1⟩
  rw [ne_eq, last_iff]
  exact fun ⟨token, mem, is_word⟩ => no_word token mem is_word

example :
    (tier "src/attestation/contest.ts").rank = 4 ∧ (tier "src/latest/oauth.ts").rank = 0 ∧
      (tier "Fakes/src/latest/oauth.ts").rank = 5 := by
  decide +kernel

end Path

end DiffReview
