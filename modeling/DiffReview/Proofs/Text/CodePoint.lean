import DiffReview.Text.CodePoint

/-!
# Code points of texts

The code points of a text are those that hold no surrogate, and the text is found again from them.
-/

namespace DiffReview.Text

/-- No character is a surrogate or lies behind the last code point. -/
theorem toNat_valid (character : Char) :
    character.toNat < 0xD800 ∨ 0xE000 ≤ character.toNat ∧ character.toNat < 0x110000 :=
  character.valid

@[simp]
theorem codePoints_nil : codePoints [] = [] := rfl

@[simp]
theorem codePoints_cons (character : Char) (text : List Char) :
    codePoints (character :: text) = .scalar character :: codePoints text := rfl

@[simp]
theorem codePoints_append (text others : List Char) :
    codePoints (text ++ others) = codePoints text ++ codePoints others :=
  List.map_append

theorem soundText?_eq_some_iff {points : List CodePoint} {text : List Char} :
    soundText? points = some text ↔ points = codePoints text := by
  induction points generalizing text with
  | nil => cases text <;> simp [soundText?]
  | cons point points induction =>
      simp only [soundText?] at induction
      simp only [soundText?, List.mapM_cons, Option.bind_eq_bind, Option.bind_eq_some_iff,
        induction, Option.pure_def, Option.some.injEq]
      constructor
      · rintro ⟨character, character_eq, others, rfl, rfl⟩
        cases point with
        | scalar first =>
            obtain rfl := Option.some.inj character_eq
            rfl
        | surrogate offset => cases character_eq
      · intro points_eq
        cases text with
        | nil => cases points_eq
        | cons character others =>
            obtain ⟨rfl, others_eq⟩ := List.cons.inj points_eq
            exact ⟨character, rfl, others, others_eq, rfl⟩

end DiffReview.Text
