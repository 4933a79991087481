import DiffReview.Limits
import DiffReview.Proofs.Pattern.Boundary
import DiffReview.Proofs.Text.Blank

/-!
# The start of a function

A line starts a function if, behind its indentation and up to three optional words, it goes on with
the keyword of a function, or binds an arrow function to a name.  The optional words can be told
from what follows them by their first letters, so that there is one way at most to read them; what
an arrow function may look like can overlap, as `async` may be a modifier or a parameter.
-/

namespace DiffReview

open Text (EndsField isBlank isBlankText isWordBreak isWordCharacter)

/-! ## The grammar -/

/-- One or more blank characters. -/
def IsGap (piece : List Char) : Prop :=
  piece ≠ [] ∧ isBlankText piece = true

/-- One or more characters of words. -/
def IsWord (piece : List Char) : Prop :=
  piece ≠ [] ∧ piece.all isWordCharacter = true

/-- A keyword and a gap behind it, or nothing. -/
def IsOptionalWord (keyword : String) (piece : List Char) : Prop :=
  (∃ gap, IsGap gap ∧ piece = keyword.toList ++ gap) ∨ piece = []

/-- The parameters of an arrow function: anything in parentheses, or a word. -/
def IsParameters (piece : List Char) : Prop :=
  (∃ inner, ')' ∉ inner ∧ piece = '(' :: (inner ++ [')'])) ∨ IsWord piece

/-- An arrow function bound to a name, up to its arrow. -/
def IsArrowFunction (piece : List Char) : Prop :=
  ∃ keyword ∈ ["const", "let", "var"], ∃ gap name afterName afterSign modifier parameters
      afterParameters,
    IsGap gap ∧ IsWord name ∧ isBlankText afterName = true ∧ isBlankText afterSign = true ∧
      IsOptionalWord "async" modifier ∧ IsParameters parameters ∧
        isBlankText afterParameters = true ∧
          piece = keyword.toList ++ (gap ++ (name ++ (afterName ++ ("=".toList ++ (afterSign ++
            (modifier ++ (parameters ++ (afterParameters ++ "=>".toList))))))))

/-- The text goes on with the keyword of a function or with an arrow function. -/
def BeginsFunction (text : List Char) : Prop :=
  (∃ rest, text = "function".toList ++ rest ∧ EndsField isWordBreak rest) ∨
    ∃ piece rest, text = piece ++ rest ∧ IsArrowFunction piece

/-- Blanks and optional words that may stand before a function. -/
def IsLeadIn (piece : List Char) : Prop :=
  ∃ indent exporting defaulting modifier,
    piece = indent ++ (exporting ++ (defaulting ++ modifier)) ∧ isBlankText indent = true ∧
      IsOptionalWord "export" exporting ∧ IsOptionalWord "default" defaulting ∧
        IsOptionalWord "async" modifier

/-! ## What the pattern reads -/

section Reading

variable {before : Option Char} {piece rest : List Char} {keyword : String}

theorem reads_gap : (Pattern.someOf isBlank).Reads before piece rest ↔ IsGap piece := by
  rw [Pattern.reads_someOf, IsGap, isBlankText, List.all_eq_true]

theorem reads_word : (Pattern.someOf isWordCharacter).Reads before piece rest ↔ IsWord piece := by
  rw [Pattern.reads_someOf, IsWord, List.all_eq_true]

theorem reads_optionalWord :
    (Pattern.optional (.seq (.literal keyword) (.someOf isBlank))).Reads before piece rest ↔
      IsOptionalWord keyword piece := by
  simp only [Pattern.reads_optional, Pattern.reads_seq_literal, reads_gap, IsOptionalWord, and_comm]

theorem reads_parameters :
    (Pattern.alt (.sequence [.literal "(", .run (· != ')'), .literal ")"])
      (.someOf isWordCharacter)).Reads before piece rest ↔ IsParameters piece := by
  rw [Pattern.reads_alt, reads_word, IsParameters]
  refine or_congr_left ?_
  rw [Pattern.reads_sequence_literal_cons]
  simp only [Pattern.reads_sequence_run_cons, Pattern.reads_sequence_singleton,
    Pattern.reads_literal]
  have inner_iff : ∀ inner : List Char, inner.all (· != ')') = true ↔ ')' ∉ inner := by
    simp [List.all_eq_true, ← List.forall_mem_ne']
  constructor
  · rintro ⟨_, rfl, inner, _, rfl, closed, rfl⟩
    exact ⟨inner, (inner_iff inner).mp closed, rfl⟩
  · rintro ⟨inner, closed, rfl⟩
    exact ⟨_, rfl, inner, _, rfl, (inner_iff inner).mpr closed, rfl⟩

theorem reads_arrowFunction :
    (Pattern.sequence [.choice (.literal "const") (["let", "var"].map .literal), .someOf isBlank,
      .someOf isWordCharacter, .run isBlank, .literal "=", .run isBlank,
      .optional (.seq (.literal "async") (.someOf isBlank)),
      .alt (.sequence [.literal "(", .run (· != ')'), .literal ")"]) (.someOf isWordCharacter),
      .run isBlank, .literal "=>"]).Reads before piece rest ↔ IsArrowFunction piece := by
  simp only [Pattern.reads_sequence_cons, Pattern.reads_sequence_nil, Pattern.reads_choice_map,
    Pattern.reads_literal, reads_gap, reads_word, Pattern.reads_run, reads_optionalWord,
    reads_parameters]
  constructor
  · rintro ⟨_, _, rfl, ⟨keyword, keyword_mem, rfl⟩, gap, _, rfl, is_gap, name, _, rfl, is_name,
      afterName, _, rfl, blank, _, _, rfl, rfl, afterSign, _, rfl, more_blank, modifier, _, rfl,
      is_modifier, parameters, _, rfl, are_parameters, afterParameters, _, rfl, last_blank, _, _,
      rfl, rfl, rfl⟩
    exact ⟨keyword, keyword_mem, gap, name, afterName, afterSign, modifier, parameters,
      afterParameters, is_gap, is_name, blank, more_blank, is_modifier, are_parameters, last_blank,
      rfl⟩
  · rintro ⟨keyword, keyword_mem, gap, name, afterName, afterSign, modifier, parameters,
      afterParameters, is_gap, is_name, blank, more_blank, is_modifier, are_parameters, last_blank,
      rfl⟩
    exact ⟨_, _, rfl, ⟨keyword, keyword_mem, rfl⟩, gap, _, rfl, is_gap, name, _, rfl, is_name,
      afterName, _, rfl, blank, _, _, rfl, rfl, afterSign, _, rfl, more_blank, modifier, _, rfl,
      is_modifier, parameters, _, rfl, are_parameters, afterParameters, _, rfl, last_blank, _, _,
      rfl, rfl, rfl⟩

theorem reads_functionKeyword :
    (Pattern.seq (.literal "function") .boundary).Reads before piece rest ↔
      piece = "function".toList ∧ EndsField isWordBreak rest := by
  rw [Pattern.reads_seq_boundary, Pattern.reads_literal]
  refine and_congr_right fun piece_eq => ?_
  have last_eq : piece.getLast?.or before = some 'n' := by rw [piece_eq]; rfl
  rw [last_eq, Cursor.atBoundary_some_iff (by decide)]

theorem reads_leadIn :
    (Pattern.sequence [.run isBlank,
      .optional (.seq (.literal "export") (.someOf isBlank)),
      .optional (.seq (.literal "default") (.someOf isBlank)),
      .optional (.seq (.literal "async") (.someOf isBlank))]).Reads before piece rest ↔
        IsLeadIn piece := by
  simp only [Pattern.reads_sequence_cons, Pattern.reads_sequence_nil, Pattern.reads_run,
    reads_optionalWord]
  constructor
  · rintro ⟨indent, _, rfl, blank, exporting, _, rfl, is_export, defaulting, _, rfl, is_default,
      modifier, _, rfl, is_async, rfl⟩
    exact ⟨indent, exporting, defaulting, modifier, by rw [List.append_nil], blank, is_export,
      is_default, is_async⟩
  · rintro ⟨indent, exporting, defaulting, modifier, rfl, blank, is_export, is_default, is_async⟩
    exact ⟨indent, _, rfl, blank, exporting, _, rfl, is_export, defaulting, _, rfl, is_default,
      modifier, _, (List.append_nil modifier).symm, is_async, rfl⟩

/-- A line starts a function if a function begins behind what may lead in to it. -/
theorem startsFunction_iff {content : String} :
    startsFunction content = true ↔
      ∃ leadIn body, content.toList = leadIn ++ body ∧ IsLeadIn leadIn ∧ BeginsFunction body := by
  have sequence_eq : functionStart = .sequence ([.run isBlank,
      .optional (.seq (.literal "export") (.someOf isBlank)),
      .optional (.seq (.literal "default") (.someOf isBlank)),
      .optional (.seq (.literal "async") (.someOf isBlank))] ++
        [.alt (.seq (.literal "function") .boundary) (.sequence [
          .choice (.literal "const") (["let", "var"].map .literal), .someOf isBlank,
          .someOf isWordCharacter, .run isBlank, .literal "=", .run isBlank,
          .optional (.seq (.literal "async") (.someOf isBlank)),
          .alt (.sequence [.literal "(", .run (· != ')'), .literal ")"]) (.someOf isWordCharacter),
          .run isBlank, .literal "=>"])]) := rfl
  rw [startsFunction, Pattern.matchesAtStart_iff_reads, sequence_eq]
  simp only [Pattern.reads_sequence_append, reads_leadIn, Pattern.reads_sequence_singleton,
    Pattern.reads_alt, reads_functionKeyword, reads_arrowFunction]
  constructor
  · rintro ⟨_, rest, content_eq, leadIn, piece, rfl, leads, ⟨rfl, ends⟩ | arrow⟩
    · exact ⟨leadIn, _, content_eq.trans (List.append_assoc ..), leads, .inl ⟨rest, rfl, ends⟩⟩
    · exact ⟨leadIn, _, content_eq.trans (List.append_assoc ..), leads,
        .inr ⟨piece, rest, rfl, arrow⟩⟩
  · rintro ⟨leadIn, _, content_eq, leads, ⟨rest, rfl, ends⟩ | ⟨piece, rest, rfl, arrow⟩⟩
    · exact ⟨_, rest, content_eq.trans (List.append_assoc ..).symm, leadIn, _, rfl, leads,
        .inl ⟨rfl, ends⟩⟩
    · exact ⟨_, rest, content_eq.trans (List.append_assoc ..).symm, leadIn, piece, rfl, leads,
        .inr arrow⟩

end Reading

/-! ## One way to lead in -/

section Unambiguous

variable {letters text otherText piece other : List Char} {keyword : String} {first : Char}

/-- The text starts with one of the letters. -/
def StartsWithAny (letters text : List Char) : Prop :=
  ∃ letter ∈ letters, text.head? = some letter

theorem StartsWithAny.cons (starts : StartsWithAny letters text) (letter : Char) :
    StartsWithAny (letter :: letters) text := by
  obtain ⟨found, found_mem, head_eq⟩ := starts
  exact ⟨found, List.mem_cons_of_mem _ found_mem, head_eq⟩

/-- The blanks before a letter end where it stands. -/
theorem eq_of_blanks_append (blank : isBlankText piece = true)
    (other_blank : isBlankText other = true) (letters_kept : letters.all (!isBlank ·) = true)
    (starts : StartsWithAny letters text) (other_starts : StartsWithAny letters otherText)
    (same : piece ++ text = other ++ otherText) :
    text = otherText := by
  have trimmed : ∀ {blanks text : List Char}, isBlankText blanks = true →
      StartsWithAny letters text → Text.trimStart isBlank (blanks ++ text) = text := by
    rintro blanks text all_blank ⟨letter, letter_mem, head_eq⟩
    rw [Text.trimStart, List.dropWhile_append_of_pos (List.all_eq_true.mp all_blank),
      ← Text.trimStart, Text.trimStart_eq_self_iff, head_eq]
    intro character is_letter
    rw [← Option.some.inj is_letter]
    simpa using List.all_eq_true.mp letters_kept letter letter_mem
  rw [← trimmed blank starts, same, trimmed other_blank other_starts]

theorem IsOptionalWord.startsWithAny_append (optional : IsOptionalWord keyword piece)
    (head_eq : keyword.toList.head? = some first) (starts : StartsWithAny letters text) :
    StartsWithAny (first :: letters) (piece ++ text) := by
  rcases optional with ⟨gap, -, rfl⟩ | rfl
  · refine ⟨first, List.mem_cons_self, ?_⟩
    rw [List.append_assoc, List.head?_append, head_eq, Option.some_or]
  · exact starts.cons first

/-- An optional word is told by its first letter from what can follow it. -/
theorem IsOptionalWord.eq_of_append (optional : IsOptionalWord keyword piece)
    (other_optional : IsOptionalWord keyword other) (head_eq : keyword.toList.head? = some first)
    (fresh : first ∉ letters) (letters_kept : letters.all (!isBlank ·) = true)
    (starts : StartsWithAny letters text) (other_starts : StartsWithAny letters otherText)
    (same : piece ++ text = other ++ otherText) : text = otherText := by
  have not_keyword : ∀ {gap text otherText : List Char}, StartsWithAny letters text →
      text ≠ keyword.toList ++ gap ++ otherText := by
    rintro gap _ otherText ⟨letter, letter_mem, starts⟩ rfl
    rw [List.append_assoc, List.head?_append, head_eq, Option.some_or] at starts
    exact fresh (Option.some.inj starts ▸ letter_mem)
  rcases optional with ⟨gap, is_gap, rfl⟩ | rfl <;>
    rcases other_optional with ⟨otherGap, other_is_gap, rfl⟩ | rfl
  · rw [List.append_assoc, List.append_assoc, List.append_cancel_left_eq] at same
    exact eq_of_blanks_append is_gap.2 other_is_gap.2 letters_kept starts other_starts same
  · exact absurd same.symm (not_keyword other_starts)
  · exact absurd same (not_keyword starts)
  · exact same

theorem IsArrowFunction.startsWithAny (arrow : IsArrowFunction piece) (rest : List Char) :
    StartsWithAny ['c', 'l', 'v'] (piece ++ rest) := by
  obtain ⟨keyword, keyword_mem, gap, name, afterName, afterSign, modifier, parameters,
    afterParameters, -, -, -, -, -, -, -, rfl⟩ := arrow
  simp only [List.mem_cons, List.not_mem_nil, or_false] at keyword_mem
  rcases keyword_mem with rfl | rfl | rfl
  · exact ⟨'c', by decide, rfl⟩
  · exact ⟨'l', by decide, rfl⟩
  · exact ⟨'v', by decide, rfl⟩

theorem BeginsFunction.startsWithAny (begins : BeginsFunction text) :
    StartsWithAny ['f', 'c', 'l', 'v'] text := by
  rcases begins with ⟨rest, rfl, -⟩ | ⟨piece, rest, rfl, arrow⟩
  · exact ⟨'f', by decide, rfl⟩
  · exact (arrow.startsWithAny rest).cons 'f'

/-- What leads in to a function ends where the function can begin. -/
theorem IsLeadIn.eq_of_append (leads : IsLeadIn piece) (other_leads : IsLeadIn other)
    (starts : StartsWithAny ['f', 'c', 'l', 'v'] text)
    (other_starts : StartsWithAny ['f', 'c', 'l', 'v'] otherText)
    (same : piece ++ text = other ++ otherText) : text = otherText := by
  obtain ⟨indent, exporting, defaulting, modifier, rfl, blank, is_export, is_default, is_async⟩ :=
    leads
  obtain ⟨otherIndent, otherExporting, otherDefaulting, otherModifier, rfl, other_blank,
    other_is_export, other_is_default, other_is_async⟩ := other_leads
  simp only [List.append_assoc] at same
  have async_starts := is_async.startsWithAny_append rfl starts
  have other_async_starts := other_is_async.startsWithAny_append rfl other_starts
  have default_starts := is_default.startsWithAny_append rfl async_starts
  have other_default_starts := other_is_default.startsWithAny_append rfl other_async_starts
  have export_starts := is_export.startsWithAny_append rfl default_starts
  have other_export_starts := other_is_export.startsWithAny_append rfl other_default_starts
  have after_indent := eq_of_blanks_append blank other_blank (by decide) export_starts
    other_export_starts same
  have after_export := is_export.eq_of_append other_is_export rfl (by decide) (by decide)
    default_starts other_default_starts after_indent
  have after_default := is_default.eq_of_append other_is_default rfl (by decide) (by decide)
    async_starts other_async_starts after_export
  exact is_async.eq_of_append other_is_async rfl (by decide) (by decide) starts other_starts
    after_default

/-- Behind what leads in to it a function begins, or the line starts none. -/
theorem startsFunction_append_iff (leads : IsLeadIn piece)
    (starts : StartsWithAny ['f', 'c', 'l', 'v'] text) :
    startsFunction (String.ofList (piece ++ text)) = true ↔ BeginsFunction text := by
  rw [startsFunction_iff, String.toList_ofList]
  constructor
  · rintro ⟨other, body, same, other_leads, begins⟩
    rwa [leads.eq_of_append other_leads starts begins.startsWithAny same]
  · exact fun begins => ⟨piece, text, rfl, leads, begins⟩

theorem not_beginsFunction_glued (in_word : isWordCharacter first = true) :
    ¬BeginsFunction ("function".toList ++ first :: text) := by
  rintro (⟨rest, same, ends⟩ | ⟨piece, rest, same, arrow⟩)
  · rw [← List.append_cancel_left same] at ends
    simpa [isWordBreak, in_word] using ends first rfl
  · obtain ⟨letter, letter_mem, head_eq⟩ := same ▸ arrow.startsWithAny rest
    rw [← Option.some.inj head_eq] at letter_mem
    exact absurd letter_mem (by decide)

end Unambiguous

/-! ## A word that is no modifier -/

section Asynchronous

variable {name parameters rest : List Char}

/-- A name bound to an arrow function whose only parameter is called `async`. -/
theorem isArrowFunction_async (is_name : IsWord name) :
    IsArrowFunction ("const ".toList ++ (name ++ " = async =>".toList)) :=
  ⟨"const", by decide, [' '], name, [' '], [' '], [], "async".toList, [' '], ⟨nofun, by decide⟩,
    is_name, by decide, by decide, .inr rfl, .inr ⟨nofun, by decide⟩, by decide, rfl⟩

/-- No parameters stand directly before the sign of an arrow. -/
theorem IsParameters.append_ne_arrow (are_parameters : IsParameters parameters) :
    parameters ++ rest ≠ "=>".toList ++ name := by
  rcases are_parameters with ⟨inner, -, rfl⟩ | ⟨nonempty, in_word⟩
  · intro same
    exact absurd (List.cons.inj same).1 (by decide)
  · obtain ⟨first, others, rfl⟩ := List.exists_cons_of_ne_nil nonempty
    intro same
    have first_eq : first = '=' := (List.cons.inj same).1
    have not_in_word : isWordCharacter '=' = false := by decide
    rw [List.all_cons, first_eq, not_in_word, Bool.false_and] at in_word
    contradiction

end Asynchronous

/-- The lines that start a function are those of the grammar.  A parameter called `async` is none of
the modifiers, and no keyword of a function runs into a word. -/
theorem startsFunction_accepts_grammar :
    (∀ content, startsFunction content = true ↔
      ∃ leadIn body, content.toList = leadIn ++ body ∧ IsLeadIn leadIn ∧ BeginsFunction body) ∧
    (∀ name, IsWord name → ∀ rest,
      startsFunction (String.ofList ("const ".toList ++ (name ++ " = async =>".toList) ++ rest)) =
          true ∧
        ∀ parameters, IsParameters parameters → ¬parameters <+: "=>".toList ++ rest) ∧
    ∀ leadIn, IsLeadIn leadIn → ∀ character, isWordCharacter character = true → ∀ rest,
      startsFunction (String.ofList (leadIn ++ ("function".toList ++ character :: rest))) =
        false := by
  refine ⟨fun _ => startsFunction_iff, fun name is_name rest => ⟨?_, ?_⟩,
    fun leadIn leads character in_word rest => ?_⟩
  · rw [startsFunction_iff, String.toList_ofList]
    refine ⟨[], _, rfl, ⟨[], [], [], [], rfl, rfl, .inr rfl, .inr rfl, .inr rfl⟩, ?_⟩
    exact .inr ⟨_, rest, rfl, isArrowFunction_async is_name⟩
  · rintro parameters are_parameters ⟨more, same⟩
    exact are_parameters.append_ne_arrow same
  · rw [Bool.eq_false_iff, Ne, startsFunction_append_iff leads ⟨'f', by decide, rfl⟩]
    exact not_beginsFunction_glued in_word

example : startsFunction "const f = async => 1" = true := by
  decide

end DiffReview
