import DiffReview.Proofs.Rule.Trace
import Mathlib.Data.List.Forall2
import Mathlib.Data.List.Pairwise

/-!
# Scanning by the default rules

A scan makes one comment for each added line and each rule that finds its trace in the line.  The
comments come in the order of the files, then of the lines, then of the rules.
-/

namespace DiffReview

open Text (StartsField EndsField isWordBreak)

/-! ## Listings -/

section Listings

variable {Place Container Item : Type} {before : Place → Place → Prop}

/-- The items are those found at some places, one for each, in the order of the places. -/
def IsListing (before : Place → Place → Prop) (finds : Place → Item → Prop) (items : List Item) :
    Prop :=
  ∃ places : List Place, places.Pairwise before ∧ List.Forall₂ finds places items ∧
    ∀ place item, finds place item → place ∈ places

/-- Containers that are listed one after the other, each as a listing. -/
theorem isListing_flatMap {finds : Container → Place → Item → Prop}
    {list : Container → List Item} (listed : ∀ container,
      IsListing before (finds container) (list container)) (containers : List Container) :
    IsListing (Prod.Lex (· < ·) before)
      (fun (place : Nat × Place) item => ∃ container, containers[place.1]? = some container ∧
        finds container place.2 item)
      (containers.flatMap list) := by
  induction containers with
  | nil => exact ⟨[], .nil, .nil, by simp⟩
  | cons container others induction =>
      obtain ⟨places, ordered, found, complete⟩ := listed container
      obtain ⟨otherPlaces, others_ordered, others_found, others_complete⟩ := induction
      refine ⟨places.map (0, ·) ++ otherPlaces.map fun place => (place.1 + 1, place.2), ?_, ?_, ?_⟩
      · refine List.pairwise_append.mpr ⟨?_, ?_, ?_⟩
        · exact ordered.map _ fun _ _ first => .right 0 first
        · refine others_ordered.map _ fun place later first => ?_
          rw [Prod.lex_def] at first ⊢
          simpa using first
        · simp only [List.mem_map]
          rintro _ ⟨place, -, rfl⟩ _ ⟨later, -, rfl⟩
          exact .left _ _ (Nat.succ_pos _)
      · rw [List.flatMap_cons]
        refine List.rel_append ?_ ?_
        · exact List.forall₂_map_left_iff.mpr
            (found.imp fun _ _ finding => ⟨container, rfl, finding⟩)
        · exact List.forall₂_map_left_iff.mpr others_found
      · rintro ⟨_ | number, place⟩ item ⟨holder, holder_eq, finding⟩
        · obtain rfl : container = holder := Option.some.inj holder_eq
          exact List.mem_append_left _ (List.mem_map_of_mem (complete place item finding))
        · exact List.mem_append_right _ (List.mem_map.mpr
            ⟨(number, place), others_complete _ item ⟨holder, holder_eq, finding⟩, rfl⟩)

/-- The results for the elements that have one. -/
theorem isListing_filterMap (result? : Container → Option Item) (containers : List Container) :
    IsListing (· < ·)
      (fun (place : Nat) item => ∃ container, containers[place]? = some container ∧
        result? container = some item)
      (containers.filterMap result?) := by
  induction containers with
  | nil => exact ⟨[], .nil, .nil, by simp⟩
  | cons container others induction =>
      obtain ⟨places, ordered, found, complete⟩ := induction
      have others_ordered : (places.map (· + 1)).Pairwise (· < ·) :=
        ordered.map _ fun _ _ => Nat.succ_lt_succ
      have others_complete : ∀ place item, (∃ other, others[place]? = some other ∧
          result? other = some item) → place + 1 ∈ places.map (· + 1) :=
        fun place item finding => List.mem_map_of_mem (complete place item finding)
      cases result_eq : result? container with
      | none =>
          rw [List.filterMap_cons_none result_eq]
          refine ⟨places.map (· + 1), others_ordered, List.forall₂_map_left_iff.mpr found, ?_⟩
          rintro (_ | place) item ⟨holder, holder_eq, finding⟩
          · obtain rfl : container = holder := Option.some.inj holder_eq
            exact absurd finding (by simp [result_eq])
          · exact others_complete place item ⟨holder, holder_eq, finding⟩
      | some first =>
          rw [List.filterMap_cons_some result_eq]
          refine ⟨0 :: places.map (· + 1), List.pairwise_cons.mpr ⟨?_, others_ordered⟩,
            .cons ⟨container, rfl, result_eq⟩ (List.forall₂_map_left_iff.mpr found), ?_⟩
          · simp
          · rintro (_ | place) item ⟨holder, holder_eq, finding⟩
            · exact List.mem_cons_self
            · exact List.mem_cons_of_mem _
                (others_complete place item ⟨holder, holder_eq, finding⟩)

end Listings

namespace Rule

/-- The positions of a file in a diff, of a line in the file and of a default rule. -/
abbrev Site :=
  Nat × Nat × Nat

/-- The order of sites: by files, then by lines, then by rules. -/
def Site.Precedes : Site → Site → Prop :=
  Prod.Lex (· < ·) (Prod.Lex (· < ·) (· < ·))

/-- At the site the trace of the rule stands in an added line, and this is the comment on it. -/
def Reports (diff : Diff) (site : Site) (comment : Comment) : Prop :=
  ∃ file content number rule trace, diff.files[site.1]? = some file ∧
    file.lines[site.2.1]? = some (.added content number) ∧
      defaultTraces[site.2.2]? = some (rule, trace) ∧ trace.StandsIn content.toList ∧
        comment =
          { filename := file.filename
            line := number
            body := s!"[{rule.id}] {rule.message}"
            severity := rule.severity
            source := "pattern" }

/-- The comment of a rule on a line, if the line is an added one and the rule fires on it. -/
def commentOn? (filename : String) (line : Line) (rule : Rule) : Option Comment :=
  match line with
  | .added content number =>
    if rule.fires content then some (rule.comment filename number) else none
  | _ => none

theorem scanFile_eq_flatMap (rules : List Rule) (file : FileDiff) :
    scanFile rules file =
      file.lines.flatMap fun line => rules.filterMap (commentOn? file.filename line) := by
  rw [scanFile, FileDiff.addedLines, FileDiff.lines, List.flatMap_assoc, List.flatMap_assoc]
  congr 1
  funext hunk
  rw [Hunk.addedLines]
  induction hunk.lines with
  | nil => rfl
  | cons line others induction =>
      rw [List.flatMap_cons, ← induction]
      cases line with
      | added content number =>
          have comments_eq : rules.filterMap (commentOn? file.filename (.added content number)) =
              (rules.filter fun rule => rule.fires content).map fun rule =>
                rule.comment file.filename number := by
            rw [← List.filterMap_eq_map, List.filterMap_filter]
            rfl
          simp [comments_eq]
      | removed content oldNumber => simp [commentOn?]
      | context content oldNumber newNumber => simp [commentOn?]

theorem commentOn?_eq_some_iff {filename : String} {line : Line} {rule : Rule} {trace : Trace}
    {comment : Comment} (looks : (rule, trace) ∈ defaultTraces) :
    commentOn? filename line rule = some comment ↔
      ∃ content number, line = .added content number ∧ trace.StandsIn content.toList ∧
        comment = rule.comment filename number := by
  cases line with
  | added content number => simp [commentOn?, fires_iff_standsIn looks, eq_comm]
  | removed content oldNumber => simp [commentOn?]
  | context content oldNumber newNumber => simp [commentOn?]

theorem reports_iff {diff : Diff} {site : Site} {comment : Comment} :
    Reports diff site comment ↔
      ∃ file, diff.files[site.1]? = some file ∧ ∃ line, file.lines[site.2.1]? = some line ∧
        ∃ rule, defaults[site.2.2]? = some rule ∧
          commentOn? file.filename line rule = some comment := by
  rw [← map_fst_defaultTraces, List.getElem?_map]
  constructor
  · rintro ⟨file, content, number, rule, trace, file_eq, line_eq, entry_eq, stands, comment_eq⟩
    refine ⟨file, file_eq, _, line_eq, rule, by rw [entry_eq]; rfl, ?_⟩
    rw [commentOn?_eq_some_iff (List.mem_of_getElem? entry_eq)]
    exact ⟨content, number, rfl, stands, comment_eq⟩
  · rintro ⟨file, file_eq, line, line_eq, rule, rule_eq, commented⟩
    obtain ⟨⟨_, trace⟩, entry_eq, rfl⟩ := Option.map_eq_some_iff.mp rule_eq
    obtain ⟨content, number, rfl, stands, comment_eq⟩ :=
      (commentOn?_eq_some_iff (List.mem_of_getElem? entry_eq)).mp commented
    exact ⟨file, content, number, _, trace, file_eq, line_eq, entry_eq, stands, comment_eq⟩

theorem isListing_scan (diff : Diff) :
    IsListing Site.Precedes (Reports diff) (scan defaults diff) := by
  have listed := isListing_flatMap
    (fun file : FileDiff => isListing_flatMap
      (fun line => isListing_filterMap (commentOn? file.filename line) defaults) file.lines)
    diff.files
  have reports_eq : Reports diff = fun site comment => _ :=
    funext₂ fun site comment => propext reports_iff
  rw [reports_eq, scan, funext (scanFile_eq_flatMap defaults)]
  exact listed

/-- The default rules fire on the lines in which their traces stand, whatever surrounds these, and a
scan reports each trace in an added line once, in order. -/
theorem defaults_fire_on_traces :
    defaultTraces.map Prod.fst = defaults ∧
      (∀ entry ∈ defaultTraces, ∀ content,
        entry.1.fires content = true ↔ entry.2.StandsIn content.toList) ∧
      (∀ entry ∈ defaultTraces, ∀ before content after : String, entry.1.fires content = true →
        (entry.2.opensWord = true → StartsField isWordBreak before.toList) →
          (entry.2.closesWord = true → EndsField isWordBreak after.toList) →
            entry.1.fires (before ++ content ++ after) = true) ∧
      ∀ diff, IsListing Site.Precedes (Reports diff) (scan defaults diff) :=
  ⟨map_fst_defaultTraces, fun _ looks _ => fires_iff_standsIn looks,
    fun _ looks _ _ _ => fires_surrounded looks, isListing_scan⟩

end Rule

end DiffReview
