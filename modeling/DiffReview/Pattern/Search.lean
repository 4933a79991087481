import DiffReview.Pattern.Basic

/-!
# Searching for a pattern

The search tries every way in which a pattern can match, handing each place where a match can stop
to the test of what follows.  It succeeds exactly where the declarative match exists.
-/

namespace DiffReview.Pattern

/-- Whether some place after a run of accepted characters satisfies `next`. -/
def tryRun (accepts : Char → Bool) (next : Cursor → Bool) : Option Char → List Char → Bool
  | before, [] => next ⟨before, []⟩
  | before, character :: rest =>
    next ⟨before, character :: rest⟩ ||
      (accepts character && tryRun accepts next (some character) rest)

/-- Whether a pattern matches from a place on and stops where `next` holds. -/
def tryFrom : Pattern → (Cursor → Bool) → Cursor → Bool
  | .empty, next, cursor => next cursor
  | .one accepts, next, cursor =>
    match cursor.rest with
    | [] => false
    | character :: rest => accepts character && next ⟨some character, rest⟩
  | .run accepts, next, cursor => tryRun accepts next cursor.before cursor.rest
  | .place accepts, next, cursor => accepts cursor && next cursor
  | .seq first second, next, cursor => first.tryFrom (second.tryFrom next) cursor
  | .alt first second, next, cursor => first.tryFrom next cursor || second.tryFrom next cursor

/-- Whether a pattern matches at the start of a text. -/
def matchesAtStart (pattern : Pattern) (text : List Char) : Bool :=
  pattern.tryFrom (fun _ => true) (Cursor.start text)

/-- Whether a pattern matches anywhere in a text. -/
def occursIn (pattern : Pattern) (text : List Char) : Bool :=
  (Cursor.placesFrom none text).any fun cursor => pattern.tryFrom (fun _ => true) cursor

theorem tryRun_eq_true_iff {accepts : Char → Bool} {next : Cursor → Bool} {before : Option Char}
    {rest : List Char} :
    tryRun accepts next before rest = true ↔
      ∃ stop, Matches (.run accepts) ⟨before, rest⟩ stop ∧ next stop = true := by
  induction rest generalizing before with
  | nil =>
    simp only [tryRun]
    constructor
    · exact fun holds => ⟨_, .runNil _, holds⟩
    · rintro ⟨stop, matching, holds⟩
      cases matching
      exact holds
  | cons character rest induction =>
    simp only [tryRun, Bool.or_eq_true, Bool.and_eq_true, induction]
    constructor
    · rintro (holds | ⟨accepted, stop, matching, holds⟩)
      · exact ⟨_, .runNil _, holds⟩
      · exact ⟨stop, .runCons accepted matching, holds⟩
    · rintro ⟨stop, matching, holds⟩
      cases matching with
      | runNil => exact .inl holds
      | runCons accepted more => exact .inr ⟨accepted, stop, more, holds⟩

/-- The search from a place succeeds exactly where a match stops at an acceptable place. -/
theorem tryFrom_eq_true_iff {pattern : Pattern} {next : Cursor → Bool} {cursor : Cursor} :
    pattern.tryFrom next cursor = true ↔
      ∃ stop, Matches pattern cursor stop ∧ next stop = true := by
  induction pattern generalizing next cursor with
  | empty =>
    simp only [tryFrom]
    constructor
    · exact fun holds => ⟨_, .empty _, holds⟩
    · rintro ⟨stop, matching, holds⟩
      cases matching
      exact holds
  | one accepts =>
    obtain ⟨before, rest⟩ := cursor
    cases rest with
    | nil =>
      simp only [tryFrom, Bool.false_eq_true, false_iff]
      rintro ⟨stop, matching, -⟩
      cases matching
    | cons character rest =>
      simp only [tryFrom, Bool.and_eq_true]
      constructor
      · exact fun ⟨accepted, holds⟩ => ⟨_, .one accepted, holds⟩
      · rintro ⟨stop, matching, holds⟩
        cases matching with
        | one accepted => exact ⟨accepted, holds⟩
  | run accepts => exact tryRun_eq_true_iff
  | place accepts =>
    simp only [tryFrom, Bool.and_eq_true]
    constructor
    · exact fun ⟨accepted, holds⟩ => ⟨_, .place accepted, holds⟩
    · rintro ⟨stop, matching, holds⟩
      cases matching with
      | place accepted => exact ⟨accepted, holds⟩
  | seq first second firstInduction secondInduction =>
    simp only [tryFrom, firstInduction, secondInduction]
    constructor
    · rintro ⟨middle, left, stop, right, holds⟩
      exact ⟨stop, .seq left right, holds⟩
    · rintro ⟨stop, matching, holds⟩
      cases matching with
      | seq left right => exact ⟨_, left, stop, right, holds⟩
  | alt first second firstInduction secondInduction =>
    simp only [tryFrom, Bool.or_eq_true, firstInduction, secondInduction]
    constructor
    · rintro (⟨stop, left, holds⟩ | ⟨stop, right, holds⟩)
      · exact ⟨stop, .altLeft left, holds⟩
      · exact ⟨stop, .altRight right, holds⟩
    · rintro ⟨stop, matching, holds⟩
      cases matching with
      | altLeft left => exact .inl ⟨stop, left, holds⟩
      | altRight right => exact .inr ⟨stop, right, holds⟩

theorem matchesAtStart_eq_true_iff {pattern : Pattern} {text : List Char} :
    pattern.matchesAtStart text = true ↔ ∃ stop, Matches pattern (.start text) stop := by
  simp [matchesAtStart, tryFrom_eq_true_iff]

theorem occursIn_eq_true_iff {pattern : Pattern} {text : List Char} :
    pattern.occursIn text = true ↔
      ∃ start ∈ Cursor.placesFrom none text, ∃ stop, Matches pattern start stop := by
  simp [occursIn, tryFrom_eq_true_iff]

end DiffReview.Pattern
