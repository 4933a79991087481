import DiffReview.Proofs.Except
import DiffReview.Proofs.Field.Integer
import DiffReview.Proofs.Text.Blank
import DiffReview.Reply

/-!
# Accepted entries of replies

An entry of a reply is accepted as a comment exactly if its members warrant it: they name a file of
the diff, a positive line and a body.  So whatever a reply states, each comment that is taken from
it names a file of the diff, a line from one on and a body, both texts trimmed and not empty.
-/

namespace DiffReview

open Text

theorem Json.text?_eq_some_iff {value : Json} {text : String} :
    value.text? = some text ↔ value = .string text := by
  cases value with
  | text points =>
      simp only [Json.text?, Json.string, Option.map_eq_some_iff, soundText?_eq_some_iff,
        Json.text.injEq]
      constructor
      · rintro ⟨characters, rfl, rfl⟩
        rw [String.toList_ofList]
      · intro points_eq
        exact ⟨text.toList, points_eq, String.ofList_toList⟩
  | _ => simp [Json.text?, Json.string]

theorem Severity.ofText?_eq_some_iff {text : String} {severity : Severity} :
    ofText? text = some severity ↔ lower (trim isBlank text.toList) = severity.name.toList := by
  rw [ofText?]
  constructor
  · intro found
    have same := List.find?_some found
    exact (beq_iff_eq.mp same).symm
  · intro word_eq
    simp only [word_eq]
    cases severity <;> decide

namespace Field

theorem text_eq_ok_iff {value : Json} {text : String} :
    Field.text value = .ok text ↔ value = .string text := by
  rw [← Json.text?_eq_some_iff]
  cases value with
  | text points =>
      simp only [Field.text, Json.text?]
      cases soundText? points <;> simp
  | _ => simp [Field.text, Json.text?]

theorem trimmedText_eq_ok_iff {value : Json} {text : String} :
    trimmedText value = .ok text ↔
      text ≠ "" ∧ ∃ whole : String, value = .string whole ∧
        trim isWhiteSpace whole.toList = text.toList := by
  rw [trimmedText, bind_eq_ok_iff]
  simp only [text_eq_ok_iff]
  constructor
  · rintro ⟨whole, value_eq, trimmed⟩
    split at trimmed
    · contradiction
    · rename_i some_text
      obtain rfl := Except.ok.inj trimmed
      rw [String.toList_ofList]
      refine ⟨?_, whole, value_eq, rfl⟩
      intro empty
      rw [String.ofList_eq_empty_iff.mp empty] at some_text
      exact some_text rfl
  · rintro ⟨some_text, whole, value_eq, trimmed⟩
    refine ⟨whole, value_eq, ?_⟩
    rw [trimmed, if_neg (by simpa using some_text), String.ofList_toList]
    rfl

end Field

namespace Reply

open DiffReview.Field (GivesPositive)

/-! ## Entries -/

/-- A member of an entry is a string without lone surrogates, and some text is left when it is
trimmed. -/
def HoldsText (members : List (List CodePoint × Json)) (name text : String) : Prop :=
  text ≠ "" ∧ ∃ whole : String, Json.member? name members = some (.string whole) ∧
    trim isWhiteSpace whole.toList = text.toList

/-- The severity of an entry is a string that names a severity when it is trimmed and put in small
letters. -/
def NamesSeverity (members : List (List CodePoint × Json)) (severity : Severity) : Prop :=
  ∃ text : String, Json.member? "severity" members = some (.string text) ∧
    lower (trim isBlank text.toList) = severity.name.toList

/-- The members of an entry state a comment on a file among the given ones. -/
structure Warrants (filenames : List String) (members : List (List CodePoint × Json))
    (comment : Comment) : Prop where
  filename : HoldsText members "filename" comment.filename
  known : comment.filename ∈ filenames
  line : ∃ value, Json.member? "line" members = some value ∧ GivesPositive value comment.line
  body : HoldsText members "body" comment.body
  severity : ∀ severity, severity ≠ .info →
    (comment.severity = severity ↔ NamesSeverity members severity)
  source : comment.source = "ai"

section Members

variable {members : List (List CodePoint × Json)}

theorem bind_memberOf_eq_ok_iff {α : Type} {name : String} {read : Json → Except FieldFault α}
    {result : α} :
    (memberOf members name >>= read) = .ok result ↔
      ∃ value, Json.member? name members = some value ∧ read value = .ok result := by
  rw [memberOf]
  cases Json.member? name members with
  | none => simp [bind, Except.bind]
  | some value => simp [bind, Except.bind]

theorem holdsText_iff {name text : String} :
    HoldsText members name text ↔
      (memberOf members name >>= Field.trimmedText) = .ok text := by
  simp only [bind_memberOf_eq_ok_iff, Field.trimmedText_eq_ok_iff]
  constructor
  · rintro ⟨some_text, whole, member_eq, trimmed⟩
    exact ⟨_, member_eq, some_text, whole, rfl, trimmed⟩
  · rintro ⟨_, member_eq, some_text, whole, rfl, trimmed⟩
    exact ⟨some_text, whole, member_eq, trimmed⟩

theorem severityOf_eq_iff {severity : Severity} (serious : severity ≠ .info) :
    severityOf (Json.member? "severity" members) = severity ↔ NamesSeverity members severity := by
  have getD_eq_iff (found : Option Severity) :
      found.getD .info = severity ↔ found = some severity := by
    cases found with
    | none => simp [serious.symm]
    | some other => simp
  simp only [severityOf, getD_eq_iff, Option.bind_eq_some_iff, Severity.ofText?_eq_some_iff,
    Json.text?_eq_some_iff, NamesSeverity]
  constructor
  · rintro ⟨text, ⟨_, member_eq, rfl⟩, word_eq⟩
    exact ⟨text, member_eq, word_eq⟩
  · rintro ⟨text, member_eq, word_eq⟩
    exact ⟨text, ⟨_, member_eq, rfl⟩, word_eq⟩

/-- The members of an entry are read one after the other, and then a comment is made of them. -/
theorem commentOf_eq_ok_iff {comment : Comment} :
    commentOf members = .ok comment ↔
      ∃ filename line body, (memberOf members "filename" >>= Field.trimmedText) = .ok filename ∧
        (memberOf members "line" >>= Field.integer) = .ok line ∧ 1 ≤ line ∧
        (memberOf members "body" >>= Field.trimmedText) = .ok body ∧
        comment =
          { filename, line, body, severity := severityOf (Json.member? "severity" members),
            source := "ai" } := by
  rw [commentOf]
  constructor
  · intro stated
    obtain ⟨filename_value, filename_eq, stated⟩ := bind_eq_ok_iff.mp stated
    obtain ⟨filename, filename_read, stated⟩ := bind_eq_ok_iff.mp stated
    obtain ⟨line_value, line_eq, stated⟩ := bind_eq_ok_iff.mp stated
    obtain ⟨line, line_read, stated⟩ := bind_eq_ok_iff.mp stated
    split at stated
    · contradiction
    · rename_i not_below
      obtain ⟨body_value, body_eq, stated⟩ := bind_eq_ok_iff.mp stated
      obtain ⟨body, body_read, stated⟩ := bind_eq_ok_iff.mp stated
      exact ⟨filename, line, body, bind_eq_ok_iff.mpr ⟨_, filename_eq, filename_read⟩,
        bind_eq_ok_iff.mpr ⟨_, line_eq, line_read⟩, Int.not_lt.mp not_below,
        bind_eq_ok_iff.mpr ⟨_, body_eq, body_read⟩, (Except.ok.inj stated).symm⟩
  · rintro ⟨filename, line, body, filename_read, line_read, positive, body_read, rfl⟩
    obtain ⟨filename_value, filename_eq, filename_read⟩ := bind_eq_ok_iff.mp filename_read
    obtain ⟨line_value, line_eq, line_read⟩ := bind_eq_ok_iff.mp line_read
    obtain ⟨body_value, body_eq, body_read⟩ := bind_eq_ok_iff.mp body_read
    have not_below : ¬line < 1 := Int.not_lt.mpr positive
    simp only [filename_eq, filename_read, line_eq, line_read, body_eq, body_read, bind,
      Except.bind, if_neg not_below]
    rfl

theorem severity_eq_severityOf_iff {severity : Severity} :
    severity = severityOf (Json.member? "severity" members) ↔
      ∀ other, other ≠ .info → (severity = other ↔ NamesSeverity members other) := by
  constructor
  · rintro rfl other serious
    exact severityOf_eq_iff serious
  · intro named
    by_cases serious : severityOf (Json.member? "severity" members) = .info
    · rw [serious]
      by_contra other
      have names := (named severity other).mp rfl
      exact other ((severityOf_eq_iff other).mpr names ▸ serious)
    · exact (named _ serious).mpr ((severityOf_eq_iff serious).mp rfl)

theorem commentOf_eq_ok_iff_warrants {filenames : List String} {comment : Comment} :
    commentOf members = .ok comment ∧ comment.filename ∈ filenames ↔
      Warrants filenames members comment := by
  rw [commentOf_eq_ok_iff]
  constructor
  · rintro ⟨⟨filename, line, body, filename_read, line_read, positive, body_read, rfl⟩, known⟩
    obtain ⟨line_value, line_eq, line_read⟩ := bind_memberOf_eq_ok_iff.mp line_read
    exact
      { filename := holdsText_iff.mpr filename_read
        known
        line := ⟨line_value, line_eq,
          Field.integer_eq_ok_iff_givesPositive.mp ⟨line_read, positive⟩⟩
        body := holdsText_iff.mpr body_read
        severity := severity_eq_severityOf_iff.mp rfl
        source := rfl }
  · intro warrants
    obtain ⟨line_value, line_eq, gives⟩ := warrants.line
    obtain ⟨line_read, positive⟩ := Field.integer_eq_ok_iff_givesPositive.mpr gives
    refine ⟨⟨_, _, _, holdsText_iff.mp warrants.filename,
      bind_memberOf_eq_ok_iff.mpr ⟨line_value, line_eq, line_read⟩, positive,
      holdsText_iff.mp warrants.body, ?_⟩, warrants.known⟩
    rw [← severity_eq_severityOf_iff.mpr warrants.severity, ← warrants.source]

end Members

theorem accept?_eq_some_iff {filenames : List String} {entry : Json} {comment : Comment} :
    accept? filenames entry = some comment ↔
      ∃ members, entry = .object members ∧ Warrants filenames members comment := by
  cases entry with
  | object members =>
      simp only [Json.object.injEq, exists_eq_left', ← commentOf_eq_ok_iff_warrants, accept?]
      cases commentOf members with
      | error fault => simp
      | ok found =>
          simp only [Option.ite_none_right_eq_some, Option.some.injEq, Except.ok.injEq,
            List.contains_iff_mem]
          constructor
          · rintro ⟨known, rfl⟩
            exact ⟨rfl, known⟩
          · rintro ⟨rfl, known⟩
            exact ⟨known, rfl⟩
  | _ => simp [accept?]

/-! ## Accepted comments -/

/-- What every accepted comment is like. -/
structure Accepted (filenames : List String) (comment : Comment) : Prop where
  filename_mem : comment.filename ∈ filenames
  line_pos : 1 ≤ comment.line
  filename_ne : comment.filename ≠ ""
  filename_trimmed : IsTrimmed isWhiteSpace comment.filename.toList
  body_ne : comment.body ≠ ""
  body_trimmed : IsTrimmed isWhiteSpace comment.body.toList
  source_eq : comment.source = "ai"

theorem HoldsText.isTrimmed {members : List (List CodePoint × Json)} {name text : String}
    (holds : HoldsText members name text) : IsTrimmed isWhiteSpace text.toList := by
  obtain ⟨-, whole, -, trimmed⟩ := holds
  exact trimmed ▸ isTrimmed_trim isWhiteSpace whole.toList

theorem accepted_of_accept? {filenames : List String} {entry : Json} {comment : Comment}
    (accepted : accept? filenames entry = some comment) : Accepted filenames comment := by
  obtain ⟨members, rfl, warrants⟩ := accept?_eq_some_iff.mp accepted
  obtain ⟨line, -, gives⟩ := warrants.line
  exact
    { filename_mem := warrants.known
      line_pos := (Field.integer_eq_ok_iff_givesPositive.mpr gives).2
      filename_ne := warrants.filename.1
      filename_trimmed := warrants.filename.isTrimmed
      body_ne := warrants.body.1
      body_trimmed := warrants.body.isTrimmed
      source_eq := warrants.source }

theorem accepted_of_mem_read {nesting : Nat} {diff : Diff} {content : String}
    {comments : List Comment} {events : List Event}
    (read_eq : read nesting diff content = .ok (comments, events)) {comment : Comment}
    (mem : comment ∈ comments) : Accepted diff.filenames comment := by
  rw [read] at read_eq
  split at read_eq
  · obtain ⟨rfl, rfl⟩ := Prod.mk.inj (Except.ok.inj read_eq)
    contradiction
  · split at read_eq
    · obtain ⟨rfl, rfl⟩ := Prod.mk.inj (Except.ok.inj read_eq)
      contradiction
    · contradiction
    · split at read_eq
      · rename_i entries _
        rw [acceptAll] at read_eq
        obtain ⟨rfl, -⟩ := Prod.mk.inj (Except.ok.inj read_eq)
        obtain ⟨entry, -, accepted⟩ := List.mem_filterMap.mp mem
        exact accepted_of_accept? accepted
      · obtain ⟨rfl, rfl⟩ := Prod.mk.inj (Except.ok.inj read_eq)
        contradiction

end Reply

end DiffReview
