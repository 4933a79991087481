import DiffReview.Proofs.Diff.Patch

/-!
# Line numbers

Each revision of a hunk is numbered from the start that the header gives.  A line has the numbers of
the revisions in which it stands, and such a number counts the lines of that revision before it.
What the header says about line counts, and what is skipped between lines, has no influence.
-/

namespace DiffReview

namespace Line

/-- Whether the line stands in the revision of a side: only removed lines are missing in the new
one, and only added ones in the old one. -/
def isOn (line : Line) : Side → Bool
  | .old => !line.isAdded
  | .new => !line.isRemoved

/-- The number of the line in the revision of a side. -/
def number? (line : Line) : Side → Option Nat
  | .old => line.oldNumber?
  | .new => line.newNumber?

end Line

namespace Hunk

/-- The number of the first line in the revision of a side. -/
def start (hunk : Hunk) : Side → Nat
  | .old => hunk.oldStart
  | .new => hunk.newStart

end Hunk

/-! ## Numbered entries -/

namespace LineKind

/-- Whether lines of this kind stand in the revision of a side. -/
def isOn (kind : LineKind) : Side → Bool
  | .old => kind.inOld
  | .new => kind.inNew

theorem isOn_line (kind : LineKind) (content : String) (oldNumber newNumber : Nat) (side : Side) :
    (kind.line content oldNumber newNumber).isOn side = kind.isOn side := by
  cases side <;> cases kind <;> rfl

/-- Of the two numbers at hand, a line gets those of the revisions in which it stands. -/
theorem number?_line (kind : LineKind) (content : String) (number : Side → Nat) (side : Side) :
    (kind.line content (number .old) (number .new)).number? side =
      if kind.isOn side then some (number side) else none := by
  cases side <;> cases kind <;> rfl

end LineKind

/-- The lines of entries, each revision numbered from its own start. -/
def numberedFrom (start : Side → Nat) (entries : List (LineKind × String)) : List Line :=
  numbered (start .old) (start .new) entries

theorem numberedFrom_cons (start : Side → Nat) (kind : LineKind) (content : String)
    (entries : List (LineKind × String)) :
    numberedFrom start ((kind, content) :: entries) =
      kind.line content (start .old) (start .new) ::
        numberedFrom (fun side => start side + if kind.isOn side then 1 else 0) entries :=
  numbered_cons _ _ _ _ _

/-- A number counts the lines of its revision before the line. -/
theorem number?_of_getElem?_numberedFrom {start : Side → Nat} {entries : List (LineKind × String)}
    {index : Nat} {line : Line} (found : (numberedFrom start entries)[index]? = some line)
    (side : Side) :
    line.number? side =
      if line.isOn side then
        some (start side +
          ((numberedFrom start entries).take index).countP fun earlier => earlier.isOn side)
      else none := by
  induction entries generalizing start index with
  | nil => simp [numberedFrom, numbered] at found
  | cons entry entries induction =>
      obtain ⟨kind, content⟩ := entry
      rw [numberedFrom_cons] at found ⊢
      cases index with
      | zero =>
          obtain rfl := Option.some.inj found
          rw [LineKind.number?_line, LineKind.isOn_line]
          rfl
      | succ index =>
          rw [List.getElem?_cons_succ] at found
          rw [induction found, List.take_succ_cons, List.countP_cons, LineKind.isOn_line,
            Nat.add_assoc, Nat.add_comm (ite _ _ _)]

/-- The numbers of each revision are consecutive. -/
theorem filterMap_number?_numberedFrom (start : Side → Nat) (entries : List (LineKind × String))
    (side : Side) :
    (numberedFrom start entries).filterMap (Line.number? · side) =
      List.range' (start side)
        ((numberedFrom start entries).countP fun line => line.isOn side) := by
  induction entries generalizing start with
  | nil => rfl
  | cons entry entries induction =>
      obtain ⟨kind, content⟩ := entry
      rw [numberedFrom_cons, List.filterMap_cons, LineKind.number?_line, List.countP_cons,
        LineKind.isOn_line, induction]
      by_cases stands : kind.isOn side = true <;> simp [stands, List.range'_succ]

/-! ## Lines that have been read -/

namespace Diff

/-- In whatever text a hunk is found, each of its lines has a number exactly in the revisions in
which it stands, and that is the start of the hunk and as many more as lines of that revision come
before it.  So the numbers of either revision follow each other without a gap. -/
theorem read_numbers_lines {text : String} {reading : DiffReading}
    (readable : read text = .ok reading) {file : FileDiff} (file_mem : file ∈ reading.diff.files)
    {hunk : Hunk} (hunk_mem : hunk ∈ file.hunks) (side : Side) :
    (∀ (index : Nat) (line : Line), hunk.lines[index]? = some line →
      line.number? side =
        if line.isOn side then
          some (hunk.start side +
            (hunk.lines.take index).countP fun earlier => earlier.isOn side)
        else none) ∧
      hunk.lines.filterMap (Line.number? · side) =
        List.range' (hunk.start side) (hunk.lines.countP fun line => line.isOn side) := by
  obtain ⟨fileSection, -, -, -, rfl⟩ := exists_section_of_mem readable file_mem
  obtain ⟨hunkSection, -, rfl⟩ := List.mem_map.mp hunk_mem
  have lines_eq : hunkSection.hunk.lines =
      numberedFrom hunkSection.hunk.start hunkSection.entries := rfl
  rw [lines_eq]
  exact ⟨fun _ _ found => number?_of_getElem?_numberedFrom found side,
    filterMap_number?_numberedFrom _ _ side⟩

/-- The counts of the header are wrong and a line is skipped, yet the last line is the third one of
either revision. -/
theorem read_numbers_lines_miscounted :
    let lines : List Line :=
      [.context "a" 7 3, .removed "b" 8, .added "c" 4, .context "d" 9 5]
    let hunk : Hunk :=
      { header := "@@ -7,1 +3,9 @@", oldStart := 7, oldCount := 1, newStart := 3, newCount := 9,
        lines }
    let file : FileDiff := { filename := "x", status := .modified, hunks := [hunk] }
    read "diff --git a/x b/x\n@@ -7,1 +3,9 @@\n a\n-b\n\\ skipped\n+c\n d" = .ok ⟨⟨[file]⟩, 1⟩ ∧
      (Line.context "d" 9 5).number? .old = some (hunk.start .old + 2) ∧
      (Line.context "d" 9 5).number? .new = some (hunk.start .new + 2) ∧
      lines.filterMap (Line.number? · .new) = List.range' 3 3 := by
  intro lines hunk file
  have readable : read "diff --git a/x b/x\n@@ -7,1 +3,9 @@\n a\n-b\n\\ skipped\n+c\n d" =
      .ok ⟨⟨[file]⟩, 1⟩ := rfl
  have file_mem : file ∈ [file] := List.mem_singleton_self file
  have hunk_mem : hunk ∈ file.hunks := List.mem_singleton_self hunk
  obtain ⟨old, -⟩ := read_numbers_lines readable file_mem hunk_mem .old
  obtain ⟨new, consecutive⟩ := read_numbers_lines readable file_mem hunk_mem .new
  exact ⟨readable, old 3 _ rfl, new 3 _ rfl, consecutive⟩

end Diff

end DiffReview
