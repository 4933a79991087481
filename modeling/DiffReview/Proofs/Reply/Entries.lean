import DiffReview.Proofs.Json.Reading
import DiffReview.Proofs.Json.Token
import DiffReview.Proofs.Reply.Acceptance

/-!
# Replies entry by entry

A reply with a list of entries is read as what each entry contributes by itself, in their order, and
it is logged how many entries contribute nothing.
-/

namespace DiffReview

open Text

/-! ## Blank texts -/

theorem Json.scanToken_of_isBlank {character : Char} (blank : isBlank character = true)
    (rest : List CodePoint) : scanToken (.scalar character) rest = none := by
  have other {known : Char} (solid : isBlank known = false) : character ≠ known := by
    rintro rfl
    simp [solid] at blank
  have no_number : scanNumber false (.scalar character :: rest) = none := by
    have no_digit : character.isDigit = false := by
      rw [Bool.eq_false_iff]
      intro digit
      simp [isBlank_of_isDigit digit] at blank
    have no_zero : (CodePoint.scalar character :: rest).head? ≠ some (.scalar '0') := by
      simpa using other (by decide)
    rw [scanNumber, scanWhole_of_head?_ne no_zero]
    simp [spanDigits, no_digit, someDigits]
  have no_word {first : Char} (solid : isBlank first = false) (others : List CodePoint) :
      (CodePoint.scalar first :: others).isPrefixOf? (.scalar character :: rest) = none := by
    refine Option.eq_none_iff_forall_ne_some.mpr fun after found => ?_
    have starts := (List.cons.inj (isPrefixOf?_eq_some_iff.mp found)).1
    exact other solid (CodePoint.scalar.inj starts)
  have no_constant : scanConstant (.scalar character :: rest) = none := by
    refine List.findSome?_eq_none_iff.mpr fun word mem => ?_
    simp only [constants, List.mem_cons, List.not_mem_nil, or_false] at mem
    obtain rfl | rfl | rfl | rfl | rfl | rfl := mem
    all_goals exact congrArg (Option.map _) (no_word (by decide) _)
  rw [scanToken, no_number, no_constant]
  · rfl
  all_goals exact other (by decide)

/-- No value is read from blanks alone. -/
theorem Json.read_codePoints_of_isBlankText {text : List Char} (blank : isBlankText text = true)
    (nesting : Nat) (value : Json) : read nesting (codePoints text) ≠ .ok value := by
  have cut : tokens (codePoints text) = [] ∨ tokens (codePoints text) = [.invalid] := by
    induction text with
    | nil => exact .inl rfl
    | cons character text induction =>
        obtain ⟨first_blank, others_blank⟩ := Bool.and_eq_true_iff.mp blank
        rw [codePoints_cons]
        cases spacing : isSpacing (.scalar character) with
        | true =>
            rw [tokens_cons_of_isSpacing spacing]
            exact induction others_blank
        | false =>
            exact .inr (tokens_cons_of_none spacing (scanToken_of_isBlank first_blank _))
  intro read_eq
  obtain none_cut | one_cut := cut
  · rw [read, none_cut] at read_eq
    cases read_eq
  · have valid := not_mem_invalid_of_read read_eq
    rw [one_cut] at valid
    exact valid (List.mem_singleton.mpr rfl)

namespace Reply

variable {nesting : Nat}

theorem isBlankText_of_read {content : List Char} {value : Json}
    (read_eq : Json.read nesting (codePoints (unfence content)) = .ok value) :
    isBlankText content = false := by
  rw [Bool.eq_false_iff]
  intro blank
  have start_eq : trimStart isBlank content = [] :=
    List.dropWhile_eq_nil_iff.mpr (List.all_eq_true.mp blank)
  have no_fence : unfenced? content = none := by
    rw [unfenced?, start_eq]
    rfl
  rw [unfence, no_fence] at read_eq
  exact Json.read_codePoints_of_isBlankText blank nesting value read_eq

/-! ## Lists of entries -/

/-- What an entry by itself adds to the comments on a diff. -/
def contribution (diff : Diff) (entry : Json) : List Comment :=
  (accept? diff.filenames entry).toList

/-- The members of an entry warrant a comment on a diff. -/
def Contributes (diff : Diff) (entry : Json) (comment : Comment) : Prop :=
  ∃ members, entry = .object members ∧ Warrants diff.filenames members comment

/-- The value that is read from a reply. -/
def Holds (nesting : Nat) (content : String) (value : Json) : Prop :=
  Json.read nesting (codePoints (unfence content.toList)) = .ok value

/-- A reply is an object with a list of entries. -/
def HoldsEntries (nesting : Nat) (content : String) (entries : List Json) : Prop :=
  ∃ value, Holds nesting content value ∧ value.get? "comments" = some (.array entries)

section Contribution

variable {diff : Diff} {entry : Json}

theorem contribution_eq_singleton_iff {comment : Comment} :
    contribution diff entry = [comment] ↔ Contributes diff entry comment := by
  rw [contribution, Option.toList_eq_singleton_iff, accept?_eq_some_iff]
  rfl

theorem contribution_eq_nil_iff :
    contribution diff entry = [] ↔ ∀ comment, ¬Contributes diff entry comment := by
  rw [contribution, Option.toList_eq_nil_iff, Option.eq_none_iff_forall_ne_some]
  simp only [Ne, accept?_eq_some_iff]
  rfl

end Contribution

theorem acceptAll_eq (diff : Diff) (entries : List Json) :
    ∃ discarded, discarded + (entries.flatMap (contribution diff)).length = entries.length ∧
      acceptAll diff.filenames entries =
        (entries.flatMap (contribution diff),
          if discarded = 0 then [] else [.entriesDiscarded discarded]) := by
  have comments_eq : entries.filterMap (accept? diff.filenames) =
      entries.flatMap (contribution diff) := List.filterMap_eq_flatMap_toList _ _
  have fewer := List.length_filterMap_le (accept? diff.filenames) entries
  refine ⟨entries.length - (entries.flatMap (contribution diff)).length, ?_, ?_⟩
  · rw [← comments_eq]
    exact Nat.sub_add_cancel fewer
  · rw [acceptAll, comments_eq]

theorem read_of_holds {content : String} {value : Json} (holds : Holds nesting content value)
    (diff : Diff) :
    read nesting diff content =
      match value.get? "comments" with
      | some (.array entries) => .ok (acceptAll diff.filenames entries)
      | _ => .ok ([], [.replyWithoutComments]) := by
  rw [read, isBlankText_of_read holds, holds]
  rfl

theorem read_of_holdsEntries {content : String} {entries : List Json}
    (holds : HoldsEntries nesting content entries) (diff : Diff) :
    ∃ discarded, discarded + (entries.flatMap (contribution diff)).length = entries.length ∧
      read nesting diff content =
        .ok (entries.flatMap (contribution diff),
          if discarded = 0 then [] else [.entriesDiscarded discarded]) := by
  obtain ⟨value, value_holds, entries_eq⟩ := holds
  obtain ⟨discarded, count_eq, accepted_eq⟩ := acceptAll_eq diff entries
  refine ⟨discarded, count_eq, ?_⟩
  rw [read_of_holds value_holds, entries_eq, ← accepted_eq]

/-- An entry contributes one comment if its members warrant it, and nothing otherwise.  A reply with
a list of entries is read as all their contributions in order, so that two lists in a row are read
one after the other, and the number of entries that contribute nothing is logged unless it is zero.
Of any other value it is logged that it has no such list. -/
theorem read_judges_entries (nesting : Nat) (diff : Diff) :
    (∀ entry comment, contribution diff entry = [comment] ↔ Contributes diff entry comment) ∧
    (∀ entry, contribution diff entry = [] ↔ ∀ comment, ¬Contributes diff entry comment) ∧
    (∀ content entries, HoldsEntries nesting content entries →
      ∃ discarded, discarded + (entries.flatMap (contribution diff)).length = entries.length ∧
        read nesting diff content =
          .ok (entries.flatMap (contribution diff),
            if discarded = 0 then [] else [.entriesDiscarded discarded])) ∧
    (∀ first second both left right, HoldsEntries nesting first left →
      HoldsEntries nesting second right → HoldsEntries nesting both (left ++ right) →
        ∃ leftComments leftEvents rightComments rightEvents events,
          read nesting diff first = .ok (leftComments, leftEvents) ∧
          read nesting diff second = .ok (rightComments, rightEvents) ∧
          read nesting diff both = .ok (leftComments ++ rightComments, events)) ∧
    ∀ content value, Holds nesting content value →
      (∀ entries, value.get? "comments" ≠ some (.array entries)) →
        read nesting diff content = .ok ([], [.replyWithoutComments]) := by
  refine ⟨fun _ _ => contribution_eq_singleton_iff, fun _ => contribution_eq_nil_iff,
    fun _ _ holds => read_of_holdsEntries holds diff, ?_, fun _ _ holds others => ?_⟩
  · intro first second both left right first_holds second_holds both_holds
    obtain ⟨_, -, first_read⟩ := read_of_holdsEntries first_holds diff
    obtain ⟨_, -, second_read⟩ := read_of_holdsEntries second_holds diff
    obtain ⟨_, -, both_read⟩ := read_of_holdsEntries both_holds diff
    rw [List.flatMap_append] at both_read
    exact ⟨_, _, _, _, _, first_read, second_read, both_read⟩
  · rw [read_of_holds holds]
    split
    · rename_i entries found
      exact absurd found (others entries)
    · rfl

/-- A comment whose line is spelled in an odd way is taken, and what is no entry is discarded; a list
by itself is no reply. -/
theorem read_judges_two_entries :
    let diff : Diff := { files := [{ filename := "x", status := .modified, hunks := [] }] }
    read 900 diff
        "\x7b\"comments\":[5,\x7b\"filename\":\" x\",\"line\":\"+0_1.0\",\"body\":\"b\"\x7d]\x7d" =
      .ok ([{ filename := "x", line := 1, body := "b", source := "ai" }],
        [.entriesDiscarded 1]) ∧
      read 900 diff "[5]" = .ok ([], [.replyWithoutComments]) := by
  intro diff
  let entries : List Json :=
    [.integer 5, .ofMembers [("filename", " x"), ("line", "+0_1.0"), ("body", "b")]]
  have taken : entries.flatMap (contribution diff) =
      [{ filename := "x", line := 1, body := "b", source := "ai" }] := by
    decide +kernel
  obtain ⟨-, -, read_entries, -, read_others⟩ := read_judges_entries 900 diff
  have read_one : ∀ content, HoldsEntries 900 content entries → read 900 diff content =
      .ok ([{ filename := "x", line := 1, body := "b", source := "ai" }],
        [.entriesDiscarded 1]) := by
    intro content holds
    obtain ⟨discarded, count_eq, entries_read⟩ := read_entries content entries holds
    rw [taken] at count_eq entries_read
    obtain rfl : discarded = 1 := Nat.add_right_cancel count_eq
    exact entries_read
  constructor
  · refine read_one _ ⟨.ofMembers [("comments", .array entries)], ?_, rfl⟩
    rw [Holds]
    rfl
  · refine read_others _ (.array [.integer 5]) ?_ nofun
    rw [Holds]
    rfl

end Reply

end DiffReview
