import DiffReview.Pattern.Search
import Mathlib.Data.List.Basic

/-!
# Which pieces a pattern matches

A pattern matches a piece of a text, given the character before the piece and the text behind it.
`Reads` says by recursion on the pattern which pieces these are: a sequence takes a piece apart, a
choice takes either way.  The relation between places that the search decides comes to the same
(`matches_iff_reads`), so that a pattern occurs in a text exactly if the text has such a piece
(`occursIn_iff_reads`).
-/

namespace DiffReview

namespace Cursor

/-- The place behind a piece of the text, and before the rest of it. -/
def behind (before : Option Char) (piece rest : List Char) : Cursor :=
  ⟨piece.getLast?.or before, rest⟩

theorem behind_cons (before : Option Char) (character : Char) (piece rest : List Char) :
    behind before (character :: piece) rest = behind (some character) piece rest := by
  rw [behind, behind, List.getLast?_cons]
  cases piece.getLast? <;> rfl

theorem behind_append (before : Option Char) (left right rest : List Char) :
    behind before (left ++ right) rest = behind (left.getLast?.or before) right rest := by
  rw [behind, behind, List.getLast?_append, Option.or_assoc]

/-- The places from a place on are those behind the beginnings of the text. -/
theorem mem_placesFrom_iff {before : Option Char} {text : List Char} {cursor : Cursor} :
    cursor ∈ placesFrom before text ↔
      ∃ front, text = front ++ cursor.rest ∧ cursor = behind before front cursor.rest := by
  induction text generalizing before with
  | nil =>
      rw [placesFrom, List.mem_singleton]
      constructor
      · rintro rfl
        exact ⟨[], rfl, rfl⟩
      · rintro ⟨front, nothing, place_eq⟩
        obtain ⟨rfl, rest_eq⟩ := List.append_eq_nil_iff.mp nothing.symm
        rw [place_eq, rest_eq]
        rfl
  | cons character text induction =>
      rw [placesFrom, List.mem_cons, induction]
      constructor
      · rintro (rfl | ⟨front, text_eq, place_eq⟩)
        · exact ⟨[], rfl, rfl⟩
        · exact ⟨character :: front, congrArg (character :: ·) text_eq,
            place_eq.trans (behind_cons ..).symm⟩
      · rintro ⟨front, text_eq, place_eq⟩
        cases front with
        | nil =>
            rw [List.nil_append] at text_eq
            exact .inl (by rw [place_eq, text_eq]; rfl)
        | cons first front =>
            obtain ⟨rfl, others_eq⟩ := List.cons.inj text_eq
            exact .inr ⟨front, others_eq, place_eq.trans (behind_cons ..)⟩

end Cursor

namespace Pattern

/-- The pattern matches the piece that stands between a character and a text. -/
def Reads : Pattern → Option Char → List Char → List Char → Prop
  | .empty, _, piece, _ => piece = []
  | .one accepts, _, piece, _ => ∃ character, accepts character = true ∧ piece = [character]
  | .run accepts, _, piece, _ => ∀ character ∈ piece, accepts character = true
  | .place accepts, before, piece, rest => piece = [] ∧ accepts ⟨before, rest⟩ = true
  | .seq first second, before, piece, rest =>
    ∃ left right, piece = left ++ right ∧ first.Reads before left (right ++ rest) ∧
      second.Reads (left.getLast?.or before) right rest
  | .alt first second, before, piece, rest =>
    first.Reads before piece rest ∨ second.Reads before piece rest

/-! ## Matches as pieces -/

theorem matches_run {accepts : Char → Bool} {before : Option Char} {piece rest : List Char}
    (accepted : ∀ character ∈ piece, accepts character = true) :
    Matches (.run accepts) ⟨before, piece ++ rest⟩ (.behind before piece rest) := by
  induction piece generalizing before with
  | nil => exact .runNil _
  | cons character piece induction =>
      rw [List.forall_mem_cons] at accepted
      rw [Cursor.behind_cons]
      exact .runCons accepted.1 (induction accepted.2)

theorem matches_of_reads {pattern : Pattern} {before : Option Char} {piece rest : List Char}
    (reads : pattern.Reads before piece rest) :
    Matches pattern ⟨before, piece ++ rest⟩ (.behind before piece rest) := by
  induction pattern generalizing before piece rest with
  | empty =>
      obtain rfl : piece = [] := reads
      exact .empty _
  | one accepts =>
      obtain ⟨character, accepted, rfl⟩ := reads
      exact .one accepted
  | run accepts => exact matches_run reads
  | place accepts =>
      obtain ⟨rfl, accepted⟩ := reads
      exact .place accepted
  | seq first second first_induction second_induction =>
      obtain ⟨left, right, rfl, first_reads, second_reads⟩ := reads
      rw [Cursor.behind_append, List.append_assoc]
      exact .seq (first_induction first_reads) (second_induction second_reads)
  | alt first second first_induction second_induction =>
      rcases reads with first_reads | second_reads
      · exact .altLeft (first_induction first_reads)
      · exact .altRight (second_induction second_reads)

theorem exists_reads_of_matches {pattern : Pattern} {start stop : Cursor}
    (matching : Matches pattern start stop) :
    ∃ piece, start.rest = piece ++ stop.rest ∧ stop = .behind start.before piece stop.rest ∧
      pattern.Reads start.before piece stop.rest := by
  induction matching with
  | empty cursor => exact ⟨[], rfl, rfl, rfl⟩
  | @one accepts before character rest accepted =>
      exact ⟨[character], rfl, rfl, character, accepted, rfl⟩
  | runNil cursor => exact ⟨[], rfl, rfl, nofun⟩
  | @runCons accepts before character rest stop accepted more induction =>
      obtain ⟨piece, rest_eq, stop_eq, reads⟩ := induction
      refine ⟨character :: piece, congrArg (character :: ·) rest_eq,
        stop_eq.trans (Cursor.behind_cons ..).symm, ?_⟩
      exact List.forall_mem_cons.mpr ⟨accepted, reads⟩
  | place accepted => exact ⟨[], rfl, rfl, rfl, accepted⟩
  | @seq first second start middle stop left right left_induction right_induction =>
      obtain ⟨left_piece, start_eq, middle_eq, left_reads⟩ := left_induction
      obtain ⟨right_piece, rest_eq, stop_eq, right_reads⟩ := right_induction
      have before_eq : middle.before = left_piece.getLast?.or start.before :=
        congrArg Cursor.before middle_eq
      rw [before_eq] at stop_eq right_reads
      rw [rest_eq] at start_eq left_reads
      exact ⟨left_piece ++ right_piece, start_eq.trans (List.append_assoc ..).symm,
        stop_eq.trans (Cursor.behind_append ..).symm, left_piece, right_piece, rfl, left_reads,
        right_reads⟩
  | altLeft left induction =>
      obtain ⟨piece, rest_eq, stop_eq, reads⟩ := induction
      exact ⟨piece, rest_eq, stop_eq, .inl reads⟩
  | altRight right induction =>
      obtain ⟨piece, rest_eq, stop_eq, reads⟩ := induction
      exact ⟨piece, rest_eq, stop_eq, .inr reads⟩

/-- A pattern matches from one place to another exactly if it reads the piece between them. -/
theorem matches_iff_reads {pattern : Pattern} {start stop : Cursor} :
    Matches pattern start stop ↔
      ∃ piece, start.rest = piece ++ stop.rest ∧ stop = .behind start.before piece stop.rest ∧
        pattern.Reads start.before piece stop.rest := by
  refine ⟨exists_reads_of_matches, ?_⟩
  rintro ⟨piece, start_eq, stop_eq, reads⟩
  have matching := matches_of_reads reads
  rwa [← start_eq, ← stop_eq] at matching

/-- A pattern occurs in a text exactly if it reads a piece of the text. -/
theorem occursIn_iff_reads {pattern : Pattern} {text : List Char} :
    pattern.occursIn text = true ↔
      ∃ front piece rest, text = front ++ (piece ++ rest) ∧
        pattern.Reads front.getLast? piece rest := by
  rw [occursIn_eq_true_iff]
  constructor
  · rintro ⟨start, start_mem, stop, matching⟩
    obtain ⟨front, text_eq, start_eq⟩ := Cursor.mem_placesFrom_iff.mp start_mem
    obtain ⟨piece, rest_eq, -, reads⟩ := matches_iff_reads.mp matching
    have before_eq : start.before = front.getLast? := by
      rw [start_eq, Cursor.behind, Option.or_none]
    rw [rest_eq] at text_eq
    rw [before_eq] at reads
    exact ⟨front, piece, stop.rest, text_eq, reads⟩
  · rintro ⟨front, piece, rest, text_eq, reads⟩
    refine ⟨⟨front.getLast?, piece ++ rest⟩, Cursor.mem_placesFrom_iff.mpr ⟨front, text_eq, ?_⟩,
      _, matches_of_reads reads⟩
    rw [Cursor.behind, Option.or_none]

/-- A pattern matches at the start of a text exactly if it reads a beginning of the text. -/
theorem matchesAtStart_iff_reads {pattern : Pattern} {text : List Char} :
    pattern.matchesAtStart text = true ↔
      ∃ piece rest, text = piece ++ rest ∧ pattern.Reads none piece rest := by
  rw [matchesAtStart_eq_true_iff]
  constructor
  · rintro ⟨stop, matching⟩
    obtain ⟨piece, text_eq, -, reads⟩ := matches_iff_reads.mp matching
    exact ⟨piece, stop.rest, text_eq, reads⟩
  · rintro ⟨piece, rest, rfl, reads⟩
    exact ⟨_, matches_of_reads reads⟩

/-! ## Composed patterns -/

section Composed

variable {before : Option Char} {piece rest : List Char}

@[simp]
theorem reads_sequence_nil : (sequence []).Reads before piece rest ↔ piece = [] :=
  Iff.rfl

theorem reads_sequence_cons {first : Pattern} {others : List Pattern} :
    (sequence (first :: others)).Reads before piece rest ↔
      ∃ left right, piece = left ++ right ∧ first.Reads before left (right ++ rest) ∧
        (sequence others).Reads (left.getLast?.or before) right rest :=
  Iff.rfl

theorem reads_sequence_singleton {pattern : Pattern} :
    (sequence [pattern]).Reads before piece rest ↔ pattern.Reads before piece rest := by
  rw [reads_sequence_cons]
  constructor
  · rintro ⟨left, right, rfl, reads, rfl⟩
    rwa [List.append_nil]
  · exact fun reads => ⟨piece, [], (List.append_nil piece).symm, reads, rfl⟩

theorem reads_sequence_pair {first second : Pattern} :
    (sequence [first, second]).Reads before piece rest ↔
      ∃ left right, piece = left ++ right ∧ first.Reads before left (right ++ rest) ∧
        second.Reads (left.getLast?.or before) right rest := by
  rw [reads_sequence_cons]
  simp only [reads_sequence_singleton]

theorem reads_sequence_append {first second : List Pattern} :
    (sequence (first ++ second)).Reads before piece rest ↔
      ∃ left right, piece = left ++ right ∧ (sequence first).Reads before left (right ++ rest) ∧
        (sequence second).Reads (left.getLast?.or before) right rest := by
  induction first generalizing before piece with
  | nil =>
      simp only [List.nil_append, reads_sequence_nil]
      constructor
      · exact fun reads => ⟨[], piece, rfl, rfl, reads⟩
      · rintro ⟨_, right, rfl, rfl, reads⟩
        exact reads
  | cons pattern others induction =>
      simp only [List.cons_append, reads_sequence_cons, induction]
      constructor
      · rintro ⟨left, _, rfl, reads, middle, right, rfl, others_reads, second_reads⟩
        refine ⟨left ++ middle, right, (List.append_assoc ..).symm, ⟨left, middle, rfl, ?_,
          others_reads⟩, ?_⟩
        · rwa [List.append_assoc] at reads
        · rwa [List.getLast?_append, Option.or_assoc]
      · rintro ⟨_, right, rfl, ⟨left, middle, rfl, reads, others_reads⟩, second_reads⟩
        refine ⟨left, middle ++ right, List.append_assoc .., ?_, middle, right, rfl, others_reads,
          ?_⟩
        · rwa [List.append_assoc]
        · rwa [List.getLast?_append, Option.or_assoc] at second_reads

theorem reads_optional {pattern : Pattern} :
    pattern.optional.Reads before piece rest ↔ pattern.Reads before piece rest ∨ piece = [] :=
  Iff.rfl

theorem reads_alt {first second : Pattern} :
    (alt first second).Reads before piece rest ↔
      first.Reads before piece rest ∨ second.Reads before piece rest :=
  Iff.rfl

theorem reads_run {accepts : Char → Bool} :
    (run accepts).Reads before piece rest ↔ piece.all accepts = true :=
  List.all_eq_true.symm

theorem reads_someOf {accepts : Char → Bool} :
    (someOf accepts).Reads before piece rest ↔
      piece ≠ [] ∧ ∀ character ∈ piece, accepts character = true := by
  constructor
  · rintro ⟨_, right, rfl, ⟨character, accepted, rfl⟩, right_accepted⟩
    exact ⟨List.cons_ne_nil _ _, List.forall_mem_cons.mpr ⟨accepted, right_accepted⟩⟩
  · rintro ⟨nonempty, accepted⟩
    obtain ⟨character, others, rfl⟩ := List.exists_cons_of_ne_nil nonempty
    obtain ⟨first_accepted, others_accepted⟩ := List.forall_mem_cons.mp accepted
    exact ⟨[character], others, rfl, ⟨character, first_accepted, rfl⟩, others_accepted⟩

theorem reads_literal {text : String} :
    (literal text).Reads before piece rest ↔ piece = text.toList := by
  rw [literal]
  induction text.toList generalizing before piece with
  | nil => exact Iff.rfl
  | cons letter letters induction =>
      rw [List.map_cons, reads_sequence_cons]
      simp only [induction]
      constructor
      · rintro ⟨_, _, rfl, ⟨character, same, rfl⟩, rfl⟩
        rw [eq_of_beq same]
        rfl
      · rintro rfl
        exact ⟨[letter], letters, rfl, ⟨letter, beq_self_eq_true letter, rfl⟩, rfl⟩

theorem reads_seq_literal {text : String} {second : Pattern} :
    (seq (literal text) second).Reads before piece rest ↔
      ∃ right, piece = text.toList ++ right ∧
        second.Reads (text.toList.getLast?.or before) right rest := by
  simp only [Reads, reads_literal]
  constructor
  · rintro ⟨_, right, rfl, rfl, reads⟩
    exact ⟨right, rfl, reads⟩
  · rintro ⟨right, rfl, reads⟩
    exact ⟨_, right, rfl, rfl, reads⟩

theorem reads_sequence_literal_cons {text : String} {others : List Pattern} :
    (sequence (literal text :: others)).Reads before piece rest ↔
      ∃ right, piece = text.toList ++ right ∧
        (sequence others).Reads (text.toList.getLast?.or before) right rest :=
  reads_seq_literal

theorem reads_sequence_run_cons {accepts : Char → Bool} {others : List Pattern} :
    (sequence (run accepts :: others)).Reads before piece rest ↔
      ∃ left right, piece = left ++ right ∧ left.all accepts = true ∧
        (sequence others).Reads (left.getLast?.or before) right rest := by
  simp only [reads_sequence_cons, Reads, List.all_eq_true]

theorem reads_sequence_one_cons {accepts : Char → Bool} {others : List Pattern} :
    (sequence (one accepts :: others)).Reads before piece rest ↔
      ∃ character right, piece = character :: right ∧ accepts character = true ∧
        (sequence others).Reads (some character) right rest := by
  rw [reads_sequence_cons]
  constructor
  · rintro ⟨_, right, rfl, ⟨character, accepted, rfl⟩, reads⟩
    exact ⟨character, right, rfl, accepted, reads⟩
  · rintro ⟨character, right, rfl, accepted, reads⟩
    exact ⟨[character], right, rfl, ⟨character, accepted, rfl⟩, reads⟩

theorem reads_sequence_replicate_one {count : Nat} {accepts : Char → Bool} :
    (sequence (List.replicate count (one accepts))).Reads before piece rest ↔
      piece.length = count ∧ piece.all accepts = true := by
  induction count generalizing before piece with
  | zero =>
      rw [List.replicate_zero, reads_sequence_nil, List.length_eq_zero_iff]
      exact ⟨fun nothing => ⟨nothing, nothing ▸ rfl⟩, And.left⟩
  | succ count induction =>
      simp only [List.replicate_succ, reads_sequence_one_cons, induction]
      cases piece <;> simp [and_left_comm]

theorem reads_folded {text : String} :
    (folded text).Reads before piece rest ↔ Text.equalsFolded text.toList piece = true := by
  rw [folded]
  induction text.toList generalizing before piece with
  | nil => cases piece <;> simp [Text.equalsFolded]
  | cons letter letters induction =>
      rw [List.map_cons, reads_sequence_cons]
      simp only [induction]
      cases piece with
      | nil => simp [Text.equalsFolded, Reads]
      | cons character characters =>
          rw [Text.equalsFolded, Bool.and_eq_true]
          constructor
          · rintro ⟨_, others, split, ⟨first, accepted, rfl⟩, others_equal⟩
            obtain ⟨rfl, rfl⟩ := List.cons.inj split
            exact ⟨accepted, others_equal⟩
          · rintro ⟨accepted, others_equal⟩
            exact ⟨[character], characters, rfl, ⟨character, accepted, rfl⟩, others_equal⟩

theorem reads_anyOf {patterns : List Pattern} :
    (anyOf patterns).Reads before piece rest ↔
      ∃ pattern ∈ patterns, pattern.Reads before piece rest := by
  induction patterns with
  | nil => simp [anyOf, Reads]
  | cons first others induction =>
      rw [List.exists_mem_cons_iff, ← induction]
      exact Iff.rfl

theorem reads_choice {first : Pattern} {others : List Pattern} :
    (choice first others).Reads before piece rest ↔
      ∃ pattern ∈ first :: others, pattern.Reads before piece rest := by
  induction others generalizing first with
  | nil => simp [choice]
  | cons second others induction =>
      have alternatives : (choice first (second :: others)).Reads before piece rest ↔
          (choice (.alt first second) others).Reads before piece rest := Iff.rfl
      rw [alternatives, induction]
      simp only [List.exists_mem_cons_iff, Reads, or_assoc]

/-- A choice between patterns that are made from words in one way. -/
theorem reads_choice_map {make : String → Pattern} {first : String} {others : List String} :
    (choice (make first) (others.map make)).Reads before piece rest ↔
      ∃ word ∈ first :: others, (make word).Reads before piece rest := by
  rw [reads_choice, ← List.map_cons]
  simp only [List.mem_map, exists_exists_and_eq_and]

theorem reads_anyWord {words : List String} :
    (anyWord words).Reads before piece rest ↔
      ∃ word ∈ words, Text.equalsFolded word.toList piece = true := by
  simp [anyWord, reads_anyOf, reads_folded]

end Composed

end Pattern

end DiffReview
