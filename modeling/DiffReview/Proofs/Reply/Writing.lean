import DiffReview.Proofs.Json.Layout
import DiffReview.Proofs.Reply.Acceptance
import DiffReview.Proofs.Reply.Fence
import Mathlib.Data.List.Forall2

/-!
# Replies read back

A reply that states acceptable comments, written as JSON, is read as exactly these comments, in
their order, and nothing is discarded.  Spacing and further members make no difference.
-/

namespace DiffReview.Reply

open Text
open Json (LaidOut MemberSpelling Spelling)

/-! ## Replies in writing -/

/-- The names of the members of an entry that matter. -/
def fieldNames : List String := ["filename", "line", "body", "severity"]

/-- The members that state a comment, as they are written. -/
def fieldsOf (comment : Comment) : List MemberSpelling :=
  [.ofField "filename" (.ofString comment.filename), .ofField "line" (.ofInteger comment.line),
    .ofField "body" (.ofString comment.body),
    .ofField "severity" (.ofString comment.severity.name)]

/-- Whether a member has one of some names. -/
def isNamed (names : List String) (member : MemberSpelling) : Bool :=
  names.any fun name => member.name == codePoints name.toList

/-- A member whose name is a string and whose value is an accepted text, not nested too deeply for
its place inside some arrays and objects. -/
structure IsAccepted (nesting enclosing : Nat) (member : MemberSpelling) : Prop where
  name : Json.tokens (codePoints member.nameText) = [.text member.name]
  value : ∃ value text, member.spelling = .ofChunk value text ∧
    Json.read nesting (codePoints text) = .ok value ∧ value.depth + enclosing ≤ nesting

/-- The members of an entry that states a comment: those that matter, in their order, and any others
anywhere. -/
structure States (nesting : Nat) (members : List MemberSpelling) (comment : Comment) : Prop where
  fields : members.filter (isNamed fieldNames) = fieldsOf comment
  others : ∀ member ∈ members, isNamed fieldNames member = false → IsAccepted nesting 3 member

/-- The members of a reply that states some comments: the list of entries, and any others
anywhere. -/
structure StatesAll (nesting : Nat) (members : List MemberSpelling) (comments : List Comment) :
    Prop where
  entries : ∃ entries, List.Forall₂ (States nesting) entries comments ∧
    members.filter (isNamed ["comments"]) =
      [.ofField "comments" (.array (entries.map Spelling.object))]
  others : ∀ member ∈ members, isNamed ["comments"] member = false →
    IsAccepted nesting 1 member

/-- The reply that states some comments and nothing else. -/
def ofComments (comments : List Comment) : Json :=
  .ofMembers [("comments", .array (comments.map fun comment =>
    .ofMembers [("filename", comment.filename), ("line", comment.line), ("body", comment.body),
      ("severity", comment.severity.name)]))]

variable {nesting : Nat}

/-! ## Members by name -/

theorem lookup_eq_head?_filter {α β : Type} [BEq α] (key : α) (pairs : List (α × β)) :
    pairs.lookup key = (pairs.filter fun pair => key == pair.1).head?.map Prod.snd := by
  induction pairs with
  | nil => rfl
  | cons pair pairs induction =>
      obtain ⟨name, value⟩ := pair
      rw [List.lookup_cons]
      cases same : key == name with
      | true => simp [same]
      | false => rw [List.filter_cons_of_neg (by simp [same]), ← induction]

theorem member?_eq_getLast?_filter (name : String) (members : List (List CodePoint × Json)) :
    Json.member? name members =
      (members.filter fun member => codePoints name.toList == member.1).getLast?.map Prod.snd := by
  rw [Json.member?, lookup_eq_head?_filter, List.filter_reverse, List.head?_reverse]

/-- A name of a kind is looked up among the members of that kind. -/
theorem member?_map_entry {names : List String} {name : String} (mem : name ∈ names)
    (members : List MemberSpelling) :
    Json.member? name (members.map MemberSpelling.entry) =
      Json.member? name ((members.filter (isNamed names)).map MemberSpelling.entry) := by
  have kept : members.filter (fun member => codePoints name.toList == member.name) =
      (members.filter (isNamed names)).filter fun member =>
        codePoints name.toList == member.name := by
    rw [List.filter_filter]
    refine List.filter_congr fun member _ => ?_
    cases same : codePoints name.toList == member.name with
    | false => rfl
    | true =>
        have name_eq : codePoints name.toList = member.name := by simpa using same
        have named : isNamed names member = true :=
          List.any_eq_true.mpr ⟨name, mem, by simp [name_eq]⟩
        rw [named]
        rfl
  rw [member?_eq_getLast?_filter, member?_eq_getLast?_filter, List.filter_map, List.filter_map]
  exact congrArg (fun found => ((found.map MemberSpelling.entry).getLast?).map Prod.snd) kept

/-! ## Entries -/

theorem severityOf_name (severity : Severity) :
    severityOf (some (.string severity.name)) = severity := by
  cases severity <;> decide

section Entry

variable {filenames : List String} {comment : Comment} {members : List MemberSpelling}
  (accepted : Accepted filenames comment) (states : States nesting members comment)

include accepted states

theorem warrants_map_entry :
    Warrants filenames (members.map MemberSpelling.entry) comment := by
  have member_eq : ∀ name ∈ fieldNames, Json.member? name (members.map MemberSpelling.entry) =
      Json.member? name ((fieldsOf comment).map MemberSpelling.entry) := by
    intro name mem
    rw [member?_map_entry mem, states.fields]
  have filename_eq : Json.member? "filename" (members.map MemberSpelling.entry) =
      some (.string comment.filename) := member_eq "filename" (by decide)
  have line_eq : Json.member? "line" (members.map MemberSpelling.entry) =
      some (.integer comment.line) := member_eq "line" (by decide)
  have body_eq : Json.member? "body" (members.map MemberSpelling.entry) =
      some (.string comment.body) := member_eq "body" (by decide)
  have severity_eq : Json.member? "severity" (members.map MemberSpelling.entry) =
      some (.string comment.severity.name) := member_eq "severity" (by decide)
  exact
    { filename := ⟨accepted.filename_ne, comment.filename, filename_eq,
        trim_eq_self_iff.mpr accepted.filename_trimmed⟩
      known := accepted.filename_mem
      line := ⟨_, line_eq, .integer accepted.line_pos⟩
      body := ⟨accepted.body_ne, comment.body, body_eq, trim_eq_self_iff.mpr accepted.body_trimmed⟩
      severity := severity_eq_severityOf_iff.mp (by rw [severity_eq, severityOf_name])
      source := accepted.source_eq }

theorem accept?_object :
    accept? filenames (Spelling.object members).value = some comment :=
  accept?_eq_some_iff.mpr ⟨_, rfl, warrants_map_entry accepted states⟩

end Entry

/-! ## The whole reply -/

theorem IsAccepted.fits {enclosing : Nat} {member : MemberSpelling}
    (accepted : IsAccepted nesting enclosing member) : member.Fits nesting enclosing := by
  obtain ⟨value, text, spelling_eq, read_eq, room⟩ := accepted.value
  refine ⟨accepted.name, ?_⟩
  rw [spelling_eq]
  exact ⟨Spelling.isSound_ofChunk read_eq, room⟩

/-- What holds of the members of a kind and of all others holds of each member. -/
theorem forall_mem_of_filter {names : List String} {members kind : List MemberSpelling}
    (filtered : members.filter (isNamed names) = kind) {holds : MemberSpelling → Prop}
    (kind_holds : ∀ member ∈ kind, holds member)
    (others_hold : ∀ member ∈ members, isNamed names member = false → holds member) :
    ∀ member ∈ members, holds member := by
  intro member mem
  cases named : isNamed names member with
  | true => exact kind_holds member (filtered ▸ List.mem_filter.mpr ⟨mem, named⟩)
  | false => exact others_hold member mem named

section Room

variable (room : 3 ≤ nesting)

include room

theorem fits_of_mem_fieldsOf {comment : Comment} (positive : 1 ≤ comment.line)
    (small : comment.line < Nat.pow 10 maxDigits) :
    ∀ member ∈ fieldsOf comment, member.Fits nesting 3 := by
  have string_fits : ∀ text, (Spelling.ofString text).Fits nesting 3 := Spelling.fits_ofString room
  have line_fits : (Spelling.ofInteger comment.line).Fits nesting 3 :=
    Spelling.fits_ofInteger room (Int.le_trans (by decide) positive) small
  simp only [fieldsOf, List.forall_mem_cons, List.not_mem_nil, false_implies, implies_true,
    and_true]
  exact ⟨MemberSpelling.fits_ofField _ (string_fits _), MemberSpelling.fits_ofField _ line_fits,
    MemberSpelling.fits_ofField _ (string_fits _), MemberSpelling.fits_ofField _ (string_fits _)⟩

theorem States.fits {members : List MemberSpelling} {comment : Comment}
    (states : States nesting members comment) (positive : 1 ≤ comment.line)
    (small : comment.line < Nat.pow 10 maxDigits) : (Spelling.object members).Fits nesting 2 :=
  Spelling.fits_object room (forall_mem_of_filter states.fields
    (fits_of_mem_fieldsOf room positive small)
    fun member mem further => (states.others member mem further).fits)

/-- A comment that a reply can state about a diff: acceptable, and with a line number that can be
read. -/
structure IsStatable (diff : Diff) (comment : Comment) : Prop where
  accepted : Accepted diff.filenames comment
  small : comment.line < Nat.pow 10 maxDigits

theorem fits_of_forall₂ {diff : Diff} {entries : List (List MemberSpelling)}
    {comments : List Comment} (states : List.Forall₂ (States nesting) entries comments)
    (statable : ∀ comment ∈ comments, IsStatable diff comment) :
    ∀ entry ∈ entries, (Spelling.object entry).Fits nesting 2 := by
  induction states with
  | nil => simp
  | cons first_states _ induction =>
      obtain ⟨first_statable, others_statable⟩ := List.forall_mem_cons.mp statable
      exact List.forall_mem_cons.mpr
        ⟨first_states.fits room first_statable.accepted.line_pos first_statable.small,
          induction others_statable⟩

end Room

theorem filterMap_accept?_of_forall₂ {diff : Diff} {entries : List (List MemberSpelling)}
    {comments : List Comment} (states : List.Forall₂ (States nesting) entries comments)
    (statable : ∀ comment ∈ comments, IsStatable diff comment) :
    (entries.map fun entry => (Spelling.object entry).value).filterMap (accept? diff.filenames) =
      comments := by
  induction states with
  | nil => rfl
  | cons first_states _ induction =>
      obtain ⟨first_statable, others_statable⟩ := List.forall_mem_cons.mp statable
      rw [List.map_cons,
        List.filterMap_cons_some (accept?_object first_statable.accepted first_states),
        induction others_statable]

section WholeReply

variable {diff : Diff} {comments : List Comment} {members : List MemberSpelling}
  (statable : ∀ comment ∈ comments, IsStatable diff comment)
  (states : StatesAll nesting members comments)

include statable states

theorem StatesAll.fits (room : 3 ≤ nesting) : (Spelling.object members).Fits nesting 0 := by
  obtain ⟨entries, entries_state, filtered⟩ := states.entries
  have entries_fit := fits_of_forall₂ room entries_state statable
  have list_fits : (Spelling.array (entries.map Spelling.object)).Fits nesting 1 := by
    refine Spelling.fits_array (by omega) fun item mem => ?_
    obtain ⟨entry, entry_mem, rfl⟩ := List.mem_map.mp mem
    exact entries_fit entry entry_mem
  refine Spelling.fits_object (by omega) (forall_mem_of_filter filtered ?_ ?_)
  · intro member mem
    obtain rfl := List.mem_singleton.mp mem
    exact MemberSpelling.fits_ofField _ list_fits
  · exact fun member mem further => (states.others member mem further).fits

theorem StatesAll.acceptAll_eq : ∃ entries,
    (Spelling.object members).value.get? "comments" = some (.array entries) ∧
      acceptAll diff.filenames entries = (comments, []) := by
  obtain ⟨entries, entries_state, filtered⟩ := states.entries
  have taken := filterMap_accept?_of_forall₂ entries_state statable
  refine ⟨entries.map fun entry => (Spelling.object entry).value, ?_, ?_⟩
  · have looked_up : (Spelling.object members).value.get? "comments" =
        some (.array ((entries.map Spelling.object).map Spelling.value)) := by
      rw [Spelling.object, Json.get?, member?_map_entry (List.mem_singleton.mpr rfl), filtered]
      rfl
    rw [looked_up, List.map_map]
    rfl
  · have none_discarded : entries.length - comments.length = 0 := by
      rw [entries_state.length_eq, Nat.sub_self]
    rw [acceptAll, taken, List.length_map, none_discarded]
    rfl

end WholeReply

theorem isBlank_of_mem_spaces : ∀ character ∈ Json.spaces, isBlank character = true := by
  intro character mem
  simp only [Json.spaces, List.mem_cons, List.not_mem_nil, or_false] at mem
  obtain rfl | rfl | rfl | rfl := mem <;> rfl

theorem unfence_of_laidOut {members : List MemberSpelling} {content : List Char}
    (laid_out : LaidOut (Spelling.object members).lexemes content) :
    isBlankText content = false ∧ unfence content = content := by
  cases laid_out with
  | @lexeme before _ text _ blank _ =>
      refine unfence_of_head?_trimStart ?_
      rw [trimStart, List.dropWhile_append_of_pos fun character mem =>
        isBlank_of_mem_spaces character (blank character mem)]
      rfl

theorem read_of_laidOut (room : 3 ≤ nesting) {diff : Diff} {comments : List Comment}
    {members : List MemberSpelling} (statable : ∀ comment ∈ comments, IsStatable diff comment)
    (states : StatesAll nesting members comments) {content : List Char}
    (laid_out : LaidOut (Spelling.object members).lexemes content) :
    read nesting diff (String.ofList content) = .ok (comments, []) := by
  obtain ⟨not_blank, unfenced⟩ := unfence_of_laidOut laid_out
  obtain ⟨entries, entries_eq, accepted⟩ := states.acceptAll_eq statable
  rw [read, String.toList_ofList, not_blank, unfenced, (states.fits statable room).read_eq laid_out]
  simp only [entries_eq, accepted]
  rfl

/-- The members of a reply that states some comments and nothing else. -/
def membersOf (comments : List Comment) : List MemberSpelling :=
  [.ofField "comments" (.array ((comments.map fieldsOf).map Spelling.object))]

theorem states_fieldsOf (comment : Comment) : States nesting (fieldsOf comment) comment where
  fields := rfl
  others := by
    intro member mem further
    have named : ∀ member ∈ fieldsOf comment, isNamed fieldNames member = true := by
      simp only [fieldsOf, List.forall_mem_cons]
      exact ⟨rfl, rfl, rfl, rfl, nofun⟩
    simp [named member mem] at further

theorem statesAll_membersOf (comments : List Comment) :
    StatesAll nesting (membersOf comments) comments where
  entries :=
    ⟨comments.map fieldsOf,
      List.forall₂_map_left_iff.mpr (List.forall₂_same.mpr fun comment _ => states_fieldsOf comment),
      rfl⟩
  others := by
    intro member mem further
    obtain rfl := List.mem_singleton.mp mem
    cases further

theorem value_membersOf (comments : List Comment) :
    (Spelling.object (membersOf comments)).value = ofComments comments := by
  have entries_eq : ((comments.map fieldsOf).map Spelling.object).map Spelling.value =
      comments.map fun comment => .ofMembers [("filename", comment.filename),
        ("line", comment.line), ("body", comment.body), ("severity", comment.severity.name)] := by
    rw [List.map_map, List.map_map]
    rfl
  rw [ofComments, ← entries_eq]
  rfl

theorem isWritten_membersOf (comments : List Comment) :
    (Spelling.object (membersOf comments)).IsWritten := by
  have list_written :
      (Spelling.array ((comments.map fieldsOf).map Spelling.object)).IsWritten := by
    refine Spelling.isWritten_array fun item mem => ?_
    simp only [List.map_map, List.mem_map] at mem
    obtain ⟨comment, -, rfl⟩ := mem
    refine Spelling.isWritten_object ?_
    simp only [fieldsOf, List.forall_mem_cons]
    exact ⟨⟨rfl, Spelling.isWritten_ofString _⟩, ⟨rfl, Spelling.isWritten_ofInteger _⟩,
      ⟨rfl, Spelling.isWritten_ofString _⟩, ⟨rfl, Spelling.isWritten_ofString _⟩, nofun⟩
  refine Spelling.isWritten_object fun member mem => ?_
  obtain rfl := List.mem_singleton.mp mem
  exact ⟨rfl, list_written⟩

/-- Comments that a reply can state are read back from it, however the reply is laid out and whatever
further members it has; in particular from the reply as it is written.  An entry is inside three
arrays and objects, and these may be open at the same time. -/
theorem read_of_statesAll (room : 3 ≤ nesting) {diff : Diff} {comments : List Comment}
    (statable : ∀ comment ∈ comments, IsStatable diff comment) :
    (∀ members content, StatesAll nesting members comments →
      LaidOut (Spelling.object members).lexemes content →
        read nesting diff (String.ofList content) = .ok (comments, [])) ∧
      read nesting diff (String.ofList (ofComments comments).write) = .ok (comments, []) := by
  refine ⟨fun members content states laid_out => read_of_laidOut room statable states laid_out, ?_⟩
  have written := isWritten_membersOf comments
  rw [Spelling.IsWritten, value_membersOf] at written
  exact read_of_laidOut room statable (statesAll_membersOf comments) written

/-- Two comments with quotes, a fence and a character beyond sixteen bits are read back, beside a
member that says something else. -/
theorem read_two_statable_comments :
    let diff : Diff := { files := [{ filename := "x", status := .modified, hunks := [] }] }
    let comments : List Comment :=
      [{ filename := "x", line := 7, body := "say \"hi\"\n```", severity := .error, source := "ai" },
        { filename := "x", line := 1, body := "𝄞", source := "ai" }]
    let members := .ofField "note" (.ofChunk (.array [.null]) "[null]".toList) :: membersOf comments
    let content := [' ', '\n'] ++ (Spelling.object members).lexemes.flatten
    read 900 diff (String.ofList content) = .ok (comments, []) ∧
      read 900 diff (String.ofList (ofComments comments).write) = .ok (comments, []) := by
  intro diff comments members content
  have trimmed : ∀ text ∈ ["x", "say \"hi\"\n```", "𝄞"], text ≠ "" ∧
      IsTrimmed isWhiteSpace text.toList := by
    simp only [← trim_eq_self_iff]
    decide
  have accepted : ∀ comment ∈ comments, Accepted diff.filenames comment := by
    simp only [comments, List.forall_mem_cons]
    obtain ⟨x_ne, x_trimmed⟩ := trimmed "x" (by simp)
    obtain ⟨first_ne, first_trimmed⟩ := trimmed "say \"hi\"\n```" (by simp)
    obtain ⟨second_ne, second_trimmed⟩ := trimmed "𝄞" (by simp)
    exact ⟨⟨by decide, by decide, x_ne, x_trimmed, first_ne, first_trimmed, rfl⟩,
      ⟨by decide, by decide, x_ne, x_trimmed, second_ne, second_trimmed, rfl⟩, nofun⟩
  have small : ∀ comment ∈ comments, comment.line < Nat.pow 10 maxDigits := by decide +kernel
  have note_accepted :
      IsAccepted 900 1 (.ofField "note" (.ofChunk (.array [.null]) "[null]".toList)) :=
    ⟨by rfl, _, _, rfl, by rfl, by decide⟩
  have states : StatesAll 900 members comments := by
    obtain ⟨entries, others⟩ := statesAll_membersOf comments
    refine ⟨entries, fun member mem further => ?_⟩
    rcases List.mem_cons.mp mem with rfl | mem
    · exact note_accepted
    · exact others member mem further
  obtain ⟨read_back, read_written⟩ :=
    read_of_statesAll (by decide : 3 ≤ 900) fun comment mem =>
      ⟨accepted comment mem, small comment mem⟩
  refine ⟨read_back members content states ?_, read_written⟩
  exact (LaidOut.flatten _).spaced (by simp [Json.spaces])

end DiffReview.Reply
