import DiffReview.Proofs.Pattern.Piece
import DiffReview.Proofs.Text.Field

/-!
# Word boundaries

A place has a word boundary if a word character stands on exactly one side of it.  Before a piece
that starts with a word character this says that no word runs into the piece, and behind a piece
that ends with one that the piece runs into no word.
-/

namespace DiffReview

open Text (StartsField EndsField isWordCharacter)

/-- A character that is part of no word. -/
def Text.isWordBreak (character : Char) : Bool :=
  !isWordCharacter character

open Text (isWordBreak)

namespace Cursor

variable {before : Option Char} {rest : List Char} {character : Char}

theorem atBoundary_cons_iff (in_word : isWordCharacter character = true) :
    atBoundary ⟨before, character :: rest⟩ = true ↔
      ∀ previous ∈ before, isWordBreak previous = true := by
  cases before <;> simp [atBoundary, isWordBreak, in_word]

theorem atBoundary_some_iff (in_word : isWordCharacter character = true) :
    atBoundary ⟨some character, rest⟩ = true ↔ EndsField isWordBreak rest := by
  cases rest <;> simp [atBoundary, EndsField, isWordBreak, in_word]

end Cursor

namespace Pattern

variable {first : Pattern} {body : List Pattern} {before : Option Char} {piece rest : List Char}

theorem reads_sequence_boundary_cons :
    (sequence (boundary :: body)).Reads before piece rest ↔
      Cursor.atBoundary ⟨before, piece ++ rest⟩ = true ∧
        (sequence body).Reads before piece rest := by
  rw [reads_sequence_cons]
  constructor
  · rintro ⟨_, right, rfl, ⟨rfl, at_boundary⟩, reads⟩
    exact ⟨at_boundary, reads⟩
  · rintro ⟨at_boundary, reads⟩
    exact ⟨[], piece, rfl, ⟨rfl, at_boundary⟩, reads⟩

theorem reads_seq_boundary :
    (seq first boundary).Reads before piece rest ↔
      first.Reads before piece rest ∧
        Cursor.atBoundary ⟨piece.getLast?.or before, rest⟩ = true := by
  constructor
  · rintro ⟨left, _, rfl, reads, rfl, at_boundary⟩
    rw [List.append_nil]
    exact ⟨reads, at_boundary⟩
  · rintro ⟨reads, at_boundary⟩
    exact ⟨piece, [], (List.append_nil piece).symm, reads, rfl, at_boundary⟩

theorem reads_sequence_concat_boundary :
    (sequence (body ++ [boundary])).Reads before piece rest ↔
      (sequence body).Reads before piece rest ∧
        Cursor.atBoundary ⟨piece.getLast?.or before, rest⟩ = true := by
  rw [← reads_seq_boundary, reads_sequence_append]
  simp only [reads_sequence_singleton]
  exact Iff.rfl

end Pattern

end DiffReview
