import DiffReview.Proofs.Text.Blank
import DiffReview.Reply

/-!
# Replies in code fences

A code fence around an object makes no difference to how a reply is read, whatever stands between
the braces and however many blanks there are around the marks.
-/

namespace DiffReview.Reply

open Text

/-! ## Objects -/

/-- A text from an opening to a closing brace. -/
structure IsBraced (text : List Char) : Prop where
  head : text.head? = some '\x7b'
  last : text.getLast? = some '\x7d'

theorem IsBraced.isTrimmed {text : List Char} (braced : IsBraced text) :
    IsTrimmed isBlank text where
  head_kept := by
    intro character first
    obtain rfl := Option.some.inj (braced.head.symm.trans first)
    decide
  last_kept := by
    intro character last
    obtain rfl := Option.some.inj (braced.last.symm.trans last)
    decide

/-- A text that starts with an opening brace, apart from blanks, is neither blank nor fenced. -/
theorem unfence_of_head?_trimStart {content : List Char}
    (brace : (trimStart isBlank content).head? = some '\x7b') :
    isBlankText content = false ∧ unfence content = content := by
  obtain ⟨rest, start_eq⟩ := List.head?_eq_some_iff.mp brace
  constructor
  · rw [isBlankText, List.all_eq_false]
    refine ⟨'\x7b', (List.dropWhile_suffix isBlank).mem ?_, by decide⟩
    exact List.mem_of_mem_head? brace
  · have no_fence : unfenced? content = none := by
      rw [unfenced?, start_eq]
      rfl
    rw [unfence, no_fence]
    rfl

/-! ## Fences -/

/-- A code fence for some text: perhaps with the label `json`, and with any blanks on both sides of
each mark. -/
structure CodeFence where
  isLabelled : Bool
  before : List Char
  opening : List Char
  closing : List Char
  after : List Char
  before_blank : isBlankText before = true
  opening_blank : isBlankText opening = true
  closing_blank : isBlankText closing = true
  after_blank : isBlankText after = true

namespace CodeFence

/-- What stands right after the opening mark. -/
def label (codeFence : CodeFence) : List Char :=
  if codeFence.isLabelled then "json".toList else []

/-- A text between the marks, with the blanks next to it. -/
def inside (codeFence : CodeFence) (text : List Char) : List Char :=
  codeFence.opening ++ (text ++ codeFence.closing)

/-- A text in the code fence. -/
def around (codeFence : CodeFence) (text : List Char) : List Char :=
  codeFence.before ++
    (fence ++ (codeFence.label ++ (codeFence.inside text ++ fence ++ codeFence.after)))

variable (codeFence : CodeFence)

theorem trim_inside {text : List Char} (braced : IsBraced text) :
    trim isBlank (codeFence.inside text) = text := by
  have nonempty : text ≠ [] := by
    rintro rfl
    cases braced.head
  exact trim_append_append braced.isTrimmed nonempty
    (List.all_eq_true.mp codeFence.opening_blank) (List.all_eq_true.mp codeFence.closing_blank)

/-- Without the label, what follows the mark starts with a blank or a brace and not with a label. -/
theorem dropMark_label {text : List Char} (braced : IsBraced text) (rest : List Char) :
    dropMark "json".toList (codeFence.label ++ (codeFence.inside text ++ rest)) =
      codeFence.inside text ++ rest := by
  cases labelled : codeFence.isLabelled with
  | true =>
      rw [label, if_pos labelled, dropMark, isPrefixOf?_append, Option.getD_some]
  | false =>
      obtain ⟨tail, text_eq⟩ := List.head?_eq_some_iff.mp braced.head
      have other : (codeFence.inside text ++ rest).head? ≠ some 'j' := by
        intro first
        cases opening_eq : codeFence.opening with
        | nil => simp [inside, opening_eq, text_eq] at first
        | cons blank blanks =>
            have blank_eq : blank = 'j' := by simpa [inside, opening_eq] using first
            have is_blank := codeFence.opening_blank
            rw [opening_eq, blank_eq] at is_blank
            contradiction
      rw [label, if_neg (by simp [labelled]), List.nil_append]
      exact dropMark_of_head?_ne other

theorem unfenced?_around {text : List Char} (braced : IsBraced text) :
    unfenced? (codeFence.around text) = some text := by
  have before_blank := List.all_eq_true.mp codeFence.before_blank
  have after_blank := List.all_eq_true.mp codeFence.after_blank
  have opened : trimStart isBlank (codeFence.around text) =
      fence ++ (codeFence.label ++ (codeFence.inside text ++ fence ++ codeFence.after)) := by
    rw [around, trimStart, List.dropWhile_append_of_pos before_blank, ← trimStart]
    exact trimStart_eq_self_iff.mpr (by simp [fence, isBlank, isWhiteSpace])
  have closed : trimEnd isBlank (codeFence.inside text ++ fence ++ codeFence.after) =
      codeFence.inside text ++ fence := by
    rw [trimEnd_append_of_forall after_blank]
    exact trimEnd_eq_self_iff.mpr (by simp [fence, isBlank, isWhiteSpace])
  rw [unfenced?, opened, isPrefixOf?_append]
  simp only [Option.bind_eq_bind, Option.bind_some]
  rw [List.append_assoc (codeFence.inside text), codeFence.dropMark_label braced,
    ← List.append_assoc, closed, List.reverse_append, isPrefixOf?_append]
  simp only [Option.bind_some, List.reverse_reverse, codeFence.trim_inside braced]
  rfl

end CodeFence

/-- An object in a code fence is read as the object without it: the comments, the error and what is
logged are the same. -/
theorem read_around (nesting : Nat) (diff : Diff) (codeFence : CodeFence) {text : String}
    (braced : IsBraced text.toList) :
    read nesting diff (String.ofList (codeFence.around text.toList)) = read nesting diff text := by
  have brace : (trimStart isBlank text.toList).head? = some '\x7b' := by
    rw [trimStart_eq_self_iff.mpr braced.isTrimmed.head_kept, braced.head]
  obtain ⟨not_blank, unfenced⟩ := unfence_of_head?_trimStart brace
  have fence_not_blank : isBlankText (codeFence.around text.toList) = false := by
    rw [isBlankText, List.all_eq_false]
    exact ⟨'\x60', by simp [CodeFence.around, fence], by decide⟩
  have fence_unfenced : unfence (codeFence.around text.toList) = text.toList := by
    rw [unfence, codeFence.unfenced?_around braced, Option.getD_some]
  simp only [read, String.toList_ofList, not_blank, fence_not_blank, unfenced, fence_unfenced]

/-- Marks inside a text of the object do not end the code fence. -/
theorem read_around_inner_marks :
    let diff : Diff := { files := [{ filename := "x", status := .modified, hunks := [] }] }
    let text := "\x7b\"comments\": [\x7b\"filename\": \"x\", " ++
      "\"line\": 1, \"body\": \"``` ```\"\x7d]\x7d"
    let codeFence : CodeFence :=
      { isLabelled := true, before := ['\n'], opening := [' ', '\n'], closing := ['\x1c'],
        after := ['\n', '\n'], before_blank := rfl, opening_blank := rfl, closing_blank := rfl,
        after_blank := rfl }
    read 900 diff (String.ofList (codeFence.around text.toList)) = read 900 diff text ∧
      (read 900 diff text).toOption.map Prod.fst =
        some [{ filename := "x", line := 1, body := "``` ```", source := "ai" }] := by
  intro diff text codeFence
  have braced : IsBraced text.toList := ⟨by decide +kernel, by decide +kernel⟩
  exact ⟨read_around 900 diff codeFence braced, by decide +kernel⟩

end DiffReview.Reply
