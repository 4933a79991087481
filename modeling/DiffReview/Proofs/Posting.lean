import DiffReview.GitHub.Payload
import DiffReview.Proofs.Comment.Merge
import DiffReview.Proofs.Text.CodePoint
import Mathlib.Data.List.FinRange

/-!
# Posted comments

Each comment has a place in the order of posting: the number of comments that are more severe, or as
severe and found earlier.  The comments that are posted are those whose place is below the number of
comments to be kept, each at its place, and what is posted of a comment states where it is, how
severe it is, who made it and what it says.
-/

namespace DiffReview.GitHub

/-! ## Places -/

/-- The comment at an index comes before the one at another index: it is more severe, or it is as
severe and was found earlier. -/
def Precedes (comments : List Comment) (first second : Fin comments.length) : Prop :=
  comments[second].severity.rank < comments[first].severity.rank ∨
    (comments[first].severity.rank = comments[second].severity.rank ∧ first < second)

instance (comments : List Comment) (first second : Fin comments.length) :
    Decidable (Precedes comments first second) :=
  inferInstanceAs (Decidable (_ ∨ _))

/-- The number of comments that come before the one at an index. -/
def place (comments : List Comment) (index : Fin comments.length) : Nat :=
  (List.finRange comments.length).countP fun other => decide (Precedes comments other index)

/-- The indices of the comments, the most severe first. -/
def ranking (comments : List Comment) : List (Fin comments.length) :=
  Severity.all.reverse.flatMap fun severity =>
    (List.finRange comments.length).filter fun index => comments[index].severity == severity

section Places

variable {comments : List Comment}

theorem Precedes.irrefl (index : Fin comments.length) : ¬Precedes comments index index := by
  simp [Precedes]

theorem Precedes.asymm {first second : Fin comments.length}
    (precedes : Precedes comments first second) : ¬Precedes comments second first := by
  simp only [Precedes] at precedes ⊢
  omega

theorem Precedes.rank_le {first second : Fin comments.length}
    (precedes : Precedes comments first second) :
    comments[second].severity.rank ≤ comments[first].severity.rank := by
  rcases precedes with more | ⟨same, -⟩
  · exact Nat.le_of_lt more
  · exact Nat.le_of_eq same.symm

theorem mem_ranking (index : Fin comments.length) : index ∈ ranking comments := by
  have listed : ∀ severity : Severity, severity ∈ Severity.all.reverse := by
    intro severity
    cases severity <;> decide
  exact List.mem_flatMap.mpr ⟨comments[index].severity, listed _, by simp⟩

theorem pairwise_ranking (comments : List Comment) :
    (ranking comments).Pairwise (Precedes comments) := by
  have falling : Severity.all.reverse.Pairwise fun more less => less.rank < more.rank := by decide
  have of_mem : ∀ {severity : Severity}, ∀ index ∈ (List.finRange comments.length).filter
      (fun index => comments[index].severity == severity),
        comments[index].severity = severity := by
    intro severity index mem
    simpa using (List.mem_filter.mp mem).2
  rw [ranking, List.pairwise_flatMap]
  constructor
  · intro severity _
    refine ((List.pairwise_lt_finRange _).filter _).imp_of_mem ?_
    intro first second first_mem second_mem earlier
    exact .inr ⟨by rw [of_mem first first_mem, of_mem second second_mem], earlier⟩
  · refine falling.imp ?_
    intro more less rank_less first first_mem second second_mem
    rw [← of_mem first first_mem, ← of_mem second second_mem] at rank_less
    exact .inl rank_less

theorem perm_ranking (comments : List Comment) :
    (ranking comments).Perm (List.finRange comments.length) := by
  have nodup : (ranking comments).Nodup :=
    (pairwise_ranking comments).imp fun precedes => by
      rintro rfl
      exact Precedes.irrefl _ precedes
  rw [List.perm_ext_iff_of_nodup nodup (List.nodup_finRange _)]
  exact fun index => iff_of_true (mem_ranking index) (List.mem_finRange index)

theorem map_get_ranking (comments : List Comment) :
    (ranking comments).map comments.get = ranked comments := by
  have filtered : ∀ severity : Severity,
      ((List.finRange comments.length).filter
        fun index => comments[index].severity == severity).map comments.get =
          comments.filter fun comment => comment.severity == severity := by
    intro severity
    conv_rhs => rw [← List.map_get_finRange comments, List.filter_map]
    rfl
  rw [ranking, ranked, List.map_flatMap]
  exact List.flatMap_congr fun severity _ => filtered severity

/-- In a list in which everything comes before what follows it, the place of an item is the number
of items that come before it. -/
theorem countP_eq_of_getElem? {α : Type} {before : α → α → Prop} [DecidableRel before]
    (irrefl : ∀ item, ¬before item item) (asymm : ∀ {first second}, before first second →
      ¬before second first) {items : List α} (ordered : items.Pairwise before) {position : Nat}
    {item : α} (found : items[position]? = some item) :
    items.countP (fun other => decide (before other item)) = position := by
  induction items generalizing position with
  | nil => simp at found
  | cons head tail induction =>
      rw [List.pairwise_cons] at ordered
      obtain ⟨head_first, tail_ordered⟩ := ordered
      cases position with
      | zero =>
          obtain rfl := Option.some.inj found
          rw [List.countP_eq_zero]
          simp only [List.forall_mem_cons, decide_eq_true_eq]
          exact ⟨irrefl head, fun other mem => asymm (head_first other mem)⟩
      | succ position =>
          rw [List.getElem?_cons_succ] at found
          rw [List.countP_cons_of_pos (by simpa using head_first item (List.mem_of_getElem? found)),
            induction tail_ordered found]

/-- Each index stands at its place. -/
theorem getElem?_ranking_eq_some_iff {position : Nat} {index : Fin comments.length} :
    (ranking comments)[position]? = some index ↔ place comments index = position := by
  have place_eq : ∀ {position : Nat}, (ranking comments)[position]? = some index →
      place comments index = position := by
    intro position found
    rw [place, ← (perm_ranking comments).countP_eq]
    exact countP_eq_of_getElem? Precedes.irrefl Precedes.asymm (pairwise_ranking comments) found
  constructor
  · exact place_eq
  · rintro rfl
    obtain ⟨position, found⟩ := List.mem_iff_getElem?.mp (mem_ranking index)
    rwa [place_eq found]

end Places

theorem perm_ranked (comments : List Comment) : (ranked comments).Perm comments := by
  have listed := (perm_ranking comments).map comments.get
  rwa [map_get_ranking, List.map_get_finRange] at listed

/-! ## Selected comments -/

theorem keptCount_eq (limit : Int) (count : Nat) :
    (keptCount limit count : Int) =
      if 0 ≤ limit then min limit count else max 0 (count + limit) := by
  rw [keptCount]
  split <;> omega

theorem selected_eq (maxComments : Int) (comments : List Comment) :
    selected maxComments comments =
      ((ranking comments).take (keptCount maxComments comments.length)).map comments.get := by
  rw [selected, ← map_get_ranking, List.map_take]

theorem length_selected (maxComments : Int) (comments : List Comment) :
    (selected maxComments comments).length = keptCount maxComments comments.length := by
  have kept_le : keptCount maxComments comments.length ≤ comments.length := by
    rw [keptCount]
    split <;> omega
  have all : (ranking comments).length = comments.length := by
    rw [(perm_ranking comments).length_eq, List.length_finRange]
  rw [selected_eq, List.length_map, List.length_take, all, Nat.min_eq_left kept_le]

theorem nodup_map_selected {α : Type} {value : Comment → α} {comments : List Comment}
    (distinct : (comments.map value).Nodup) {maxComments : Int} :
    ((selected maxComments comments).map value).Nodup := by
  have all_distinct : ((ranked comments).map value).Nodup :=
    ((perm_ranked comments).map value).nodup_iff.mpr distinct
  exact all_distinct.sublist ((List.take_sublist _ _).map value)

/-- Indices of comments in the order in which that many of the comments are posted. -/
structure IsPostingOrder (comments : List Comment) (kept : Nat)
    (order : List (Fin comments.length)) : Prop where
  /-- Each index whose place is below the number of comments kept stands at its place. -/
  places : ∀ index position,
    order[position]? = some index ↔ place comments index = position ∧ position < kept
  /-- Severities do not rise, and equally severe comments stay in the order they were found in. -/
  falling : order.Pairwise fun first second =>
    comments[second].severity.rank ≤ comments[first].severity.rank ∧
      (comments[first].severity = comments[second].severity → first < second)
  /-- No comment that is left out is more severe than one that is posted. -/
  left_out : ∀ index ∉ order, ∀ posted ∈ order,
    comments[index].severity.rank ≤ comments[posted].severity.rank

theorem isPostingOrder_take_ranking (comments : List Comment) (kept : Nat) :
    IsPostingOrder comments kept ((ranking comments).take kept) where
  places := by
    intro index position
    rw [List.getElem?_take, Option.ite_none_right_eq_some, getElem?_ranking_eq_some_iff, and_comm]
  falling := by
    refine ((pairwise_ranking comments).sublist (List.take_sublist _ _)).imp ?_
    intro first second precedes
    refine ⟨precedes.rank_le, fun same => ?_⟩
    rcases precedes with more | ⟨-, earlier⟩
    · exact absurd more (Nat.not_lt.mpr (Nat.le_of_eq (congrArg Severity.rank same)))
    · exact earlier
  left_out := by
    intro index not_posted posted posted_mem
    have ordered := pairwise_ranking comments
    rw [← List.take_append_drop kept (ranking comments), List.pairwise_append] at ordered
    have index_mem : index ∈ (ranking comments).drop kept := by
      have mem := mem_ranking index
      rw [← List.take_append_drop kept (ranking comments), List.mem_append] at mem
      exact mem.resolve_left not_posted
    exact (ordered.2.2 posted posted_mem index index_mem).rank_le

/-! ## What is said about a review -/

/-- What is said about a review of which some comments are left out. -/
def truncation (posted total : Nat) : String :=
  s!"Results truncated: showing the top {posted} of {total} comments by severity. "

/-- What is said about every review. -/
def issueCount (total : Nat) : String :=
  s!"Automated code review found {total} issue(s)."

theorem head?_truncation (posted total : Nat) :
    (truncation posted total).toList.head? = some 'R' := by
  obtain ⟨rest, split⟩ :
      ∃ rest, truncation posted total = "Results truncated: showing the top " ++ rest :=
    ⟨_, String.append_assoc.trans (String.append_assoc.trans String.append_assoc)⟩
  rw [split, String.toList_append, List.head?_append]
  rfl

theorem head?_issueCount (total : Nat) : (issueCount total).toList.head? = some 'A' := by
  obtain ⟨rest, split⟩ : ∃ rest, issueCount total = "Automated code review found " ++ rest :=
    ⟨_, String.append_assoc⟩
  rw [split, String.toList_append, List.head?_append]
  rfl

theorem summary_eq (posted total : Nat) :
    summary posted total =
      (if posted < total then truncation posted total else "") ++ issueCount total :=
  rfl

theorem truncation_isPrefix_summary_iff {posted total : Nat} :
    (truncation posted total).toList <+: (summary posted total).toList ↔ posted < total := by
  rw [summary_eq, String.toList_append]
  by_cases truncated : posted < total
  · rw [if_pos truncated]
    exact iff_of_true (List.prefix_append _ _) truncated
  · rw [if_neg truncated]
    refine iff_of_false ?_ truncated
    rintro ⟨rest, split⟩
    have first_eq := congrArg List.head? split
    rw [List.head?_append, head?_truncation, Option.some_or, String.toList_empty,
      List.nil_append, head?_issueCount] at first_eq
    contradiction

/-! ## Posted values -/

/-- The sign and the word for a severity. -/
def severityHeading : Severity → String
  | .error => "❌ **ERROR**"
  | .warning => "⚠️ **WARNING**"
  | .info => "ℹ️ **INFO**"

/-- The value posts the comment: it states the place, and the text behind the severity and the
source. -/
structure IsPosted (comment : Comment) (value : Json) : Prop where
  path : value.get? "path" = some (.string comment.filename)
  line : value.get? "line" = some (.integer comment.line)
  side : value.get? "side" = some (.string "RIGHT")
  body : value.get? "body" =
    some (.string
      (severityHeading comment.severity ++ " (" ++ comment.source ++ ")\n\n" ++ comment.body))

/-- The place that a posted value states. -/
def postedPlace (value : Json) : Option Json × Option Json :=
  (value.get? "path", value.get? "line")

theorem formatComment_eq (comment : Comment) :
    formatComment comment =
      severityHeading comment.severity ++ " (" ++ comment.source ++ ")\n\n" ++ comment.body := by
  have opening_eq : ∀ severity : Severity,
      marker severity ++ " **" ++ severity.name.toUpper ++ "** (" =
        severityHeading severity ++ " (" := by
    intro severity
    cases severity <;> decide +kernel
  exact congrArg (fun opening => opening ++ comment.source ++ ")\n\n" ++ comment.body)
    (opening_eq comment.severity)

theorem isPosted_commentJson (comment : Comment) :
    IsPosted comment (Payload.commentJson comment) where
  path := rfl
  line := rfl
  side := rfl
  body := by
    rw [← formatComment_eq]
    rfl

theorem string_injective {left right : String} (same : Json.string left = .string right) :
    left = right := by
  have points_eq : Text.codePoints left.toList = Text.codePoints right.toList :=
    Json.text.inj same
  have texts_eq : some left.toList = some right.toList := by
    rw [← Text.soundText?_eq_some_iff.mpr rfl, points_eq, Text.soundText?_eq_some_iff.mpr rfl]
  exact String.toList_inj.mp (Option.some.inj texts_eq)

/-- Comments at different places are posted at different places. -/
theorem nodup_map_postedPlace {comments : List Comment}
    (distinct : (comments.map Comment.location).Nodup) :
    ((comments.map Payload.commentJson).map postedPlace).Nodup := by
  have injective : Function.Injective fun location : String × Int =>
      (some (Json.string location.1), some (Json.integer location.2)) := by
    rintro ⟨filename, line⟩ ⟨other, otherLine⟩ same
    obtain ⟨names_eq, lines_eq⟩ := Prod.mk.inj same
    obtain rfl : filename = other := string_injective (Option.some.inj names_eq)
    obtain rfl : line = otherLine := Json.integer.inj (Option.some.inj lines_eq)
    rfl
  have places_eq : (comments.map Payload.commentJson).map postedPlace =
      (comments.map Comment.location).map fun location =>
        (some (Json.string location.1), some (Json.integer location.2)) := by
    rw [List.map_map, List.map_map]
    rfl
  rw [places_eq]
  exact distinct.map injective

/-! ## Payloads -/

namespace Payload

/-- Of the comments on a change, as many are posted as the limit says, a negative one counting from
the end: those whose places are the first, each at its place.  What is said about the review counts
all comments, and tells how many are posted exactly if that is not all of them.  What is left of
proposals after a merge is posted at different places. -/
theorem ofComments_keeps_most_severe (maxComments : Int) (change : Change)
    (comments : List Comment) :
    (∃ posted : List Json,
      (ofComments maxComments change comments).json.get? "comments" = some (.array posted) ∧
      (posted.length : Int) =
        (if 0 ≤ maxComments then min maxComments comments.length
        else max 0 (comments.length + maxComments)) ∧
      (∃ order, IsPostingOrder comments posted.length order ∧
        List.Forall₂ (fun index value => IsPosted comments[index] value) order posted) ∧
      ∃ body : String,
        (ofComments maxComments change comments).json.get? "body" = some (.string body) ∧
          body =
            (if posted.length < comments.length then truncation posted.length comments.length
            else "") ++ issueCount comments.length ∧
          ((truncation posted.length comments.length).toList <+: body.toList ↔
            posted.length < comments.length)) ∧
    ∀ threshold proposals, ∃ posted : List Json,
      (ofComments maxComments change (Comment.merge threshold proposals)).json.get? "comments" =
          some (.array posted) ∧
        (posted.map postedPlace).Nodup := by
  constructor
  · have posted_eq : (ofComments maxComments change comments).comments =
        ((ranking comments).take (keptCount maxComments comments.length)).map comments.get :=
      selected_eq maxComments comments
    have length_eq : ((ofComments maxComments change comments).comments.map commentJson).length =
        keptCount maxComments comments.length := by
      rw [List.length_map]
      exact length_selected maxComments comments
    refine ⟨(ofComments maxComments change comments).comments.map commentJson, rfl, ?_,
      ⟨(ranking comments).take (keptCount maxComments comments.length), ?_, ?_⟩, _, rfl, ?_, ?_⟩
    · rw [length_eq, keptCount_eq]
    · rw [length_eq]
      exact isPostingOrder_take_ranking comments _
    · rw [posted_eq, List.map_map, List.forall₂_map_right_iff]
      exact List.forall₂_same.mpr fun index _ => isPosted_commentJson comments[index]
    · rw [List.length_map]
      exact summary_eq _ comments.length
    · rw [List.length_map]
      exact truncation_isPrefix_summary_iff
  · intro threshold proposals
    refine ⟨_, rfl, nodup_map_postedPlace ?_⟩
    exact nodup_map_selected (Comment.nodup_map_location_merge threshold proposals)

example :
    let comment (line : Int) (severity : Severity) : Comment :=
      { filename := "x", line, body := "b", severity }
    let comments := [comment 1 .info, comment 2 .error, comment 3 .warning, comment 4 .error]
    (selected (-2) comments).map Comment.line = [2, 4] := by
  decide

end Payload

end DiffReview.GitHub
