import Mathlib.Data.List.Basic

/-!
# Fields between separators

Separators cut a text into fields.  A field is a piece without separators between two of them, or
between one of them and an end of the text (`mem_splitOnP_iff`).
-/

namespace DiffReview.Text

/-- A field can start behind the text: it is empty, or its last character is a separator. -/
def StartsField (separates : Char → Bool) (front : List Char) : Prop :=
  ∀ character ∈ front.getLast?, separates character = true

/-- A field can end before the text: it is empty, or its first character is a separator. -/
def EndsField (separates : Char → Bool) (back : List Char) : Prop :=
  ∀ character ∈ back.head?, separates character = true

section Fields

variable {separates : Char → Bool} {text field front back : List Char} {separator : Char}

theorem startsField_nil : StartsField separates [] :=
  nofun

theorem startsField_concat (is_separator : separates separator = true) :
    StartsField separates (front ++ [separator]) := by
  intro character last
  rw [List.getLast?_concat] at last
  rwa [← Option.some.inj last]

theorem endsField_nil : EndsField separates [] :=
  nofun

theorem endsField_cons (is_separator : separates separator = true) :
    EndsField separates (separator :: back) := by
  intro character first
  rwa [← Option.some.inj first]

/-- Behind a separator a field can start as behind nothing. -/
theorem startsField_append_cons_iff (is_separator : separates separator = true) :
    StartsField separates (text ++ separator :: front) ↔ StartsField separates front := by
  rcases List.eq_nil_or_concat' front with rfl | ⟨others, last, rfl⟩
  · exact ⟨fun _ => startsField_nil, fun _ => startsField_concat is_separator⟩
  · have last_eq : (text ++ separator :: (others ++ [last])).getLast? =
        (others ++ [last]).getLast? := by
      rw [← List.cons_append, ← List.append_assoc, List.getLast?_concat, List.getLast?_concat]
    rw [StartsField, last_eq, StartsField]

theorem StartsField.append {others : List Char} (starts : StartsField separates front)
    (others_start : StartsField separates others) : StartsField separates (front ++ others) := by
  intro character last
  rw [List.getLast?_append, Option.mem_def, Option.or_eq_some_iff] at last
  rcases last with last | ⟨-, last⟩
  · exact others_start character last
  · exact starts character last

theorem EndsField.append {others : List Char} (ends : EndsField separates back)
    (others_end : EndsField separates others) : EndsField separates (back ++ others) := by
  intro character first
  rw [List.head?_append, Option.mem_def, Option.or_eq_some_iff] at first
  rcases first with first | ⟨-, first⟩
  · exact ends character first
  · exact others_end character first

theorem StartsField.eq_nil_or_concat (starts : StartsField separates front) :
    front = [] ∨
      ∃ others separator, separates separator = true ∧ front = others ++ [separator] := by
  rcases List.eq_nil_or_concat' front with rfl | ⟨others, last, rfl⟩
  · exact .inl rfl
  · exact .inr ⟨others, last, starts last List.getLast?_concat, rfl⟩

theorem EndsField.eq_nil_or_cons (ends : EndsField separates back) :
    back = [] ∨ ∃ separator others, separates separator = true ∧ back = separator :: others := by
  cases back with
  | nil => exact .inl rfl
  | cons first others => exact .inr ⟨first, others, ends first rfl, rfl⟩

theorem mem_splitOnP_append (unbroken : ∀ character ∈ field, separates character = false)
    (ends : EndsField separates back) : field ∈ (field ++ back).splitOnP separates := by
  rcases ends.eq_nil_or_cons with rfl | ⟨separator, others, is_separator, rfl⟩
  · rw [List.append_nil, List.splitOnP_eq_singleton unbroken]
    exact List.mem_singleton_self field
  · rw [List.splitOnP_append_cons_of_forall_mem unbroken _ is_separator]
    exact List.mem_cons_self

/-- A text has no separator, or it is a field with a separator behind it. -/
theorem unbroken_or_exists_separator (separates : Char → Bool) (text : List Char) :
    (∀ character ∈ text, separates character = false) ∨
      ∃ field separator others, (∀ character ∈ field, separates character = false) ∧
        separates separator = true ∧ text = field ++ separator :: others := by
  induction text with
  | nil => exact .inl nofun
  | cons first text induction =>
      cases is_separator : separates first with
      | true => exact .inr ⟨[], first, text, nofun, is_separator, rfl⟩
      | false =>
          rcases induction with unbroken | ⟨field, separator, others, unbroken, separated, rfl⟩
          · exact .inl (List.forall_mem_cons.mpr ⟨is_separator, unbroken⟩)
          · exact .inr ⟨first :: field, separator, others,
              List.forall_mem_cons.mpr ⟨is_separator, unbroken⟩, separated, rfl⟩

/-- The fields of a text are its pieces without separators that are cut off by separators. -/
theorem mem_splitOnP_iff :
    field ∈ text.splitOnP separates ↔
      ∃ front back, text = front ++ (field ++ back) ∧ StartsField separates front ∧
        (∀ character ∈ field, separates character = false) ∧ EndsField separates back := by
  constructor
  · intro mem
    induction length_eq : text.length using Nat.strongRecOn generalizing text with
    | ind length induction =>
        rcases unbroken_or_exists_separator separates text with
          unbroken | ⟨first, separator, others, unbroken, is_separator, rfl⟩
        · rw [List.splitOnP_eq_singleton unbroken, List.mem_singleton] at mem
          exact ⟨[], [], by simp [mem], startsField_nil, mem ▸ unbroken, endsField_nil⟩
        · rw [List.splitOnP_append_cons_of_forall_mem unbroken _ is_separator] at mem
          rcases List.mem_cons.mp mem with rfl | mem_others
          · exact ⟨[], separator :: others, rfl, startsField_nil, unbroken,
              endsField_cons is_separator⟩
          · have shorter : others.length < length := by
              rw [← length_eq, List.length_append, List.length_cons]
              omega
            obtain ⟨front, back, rfl, starts, field_unbroken, ends⟩ :=
              induction _ shorter mem_others rfl
            exact ⟨first ++ separator :: front, back, by simp,
              (startsField_append_cons_iff is_separator).mpr starts, field_unbroken, ends⟩
  · rintro ⟨front, back, rfl, starts, unbroken, ends⟩
    have mem_behind := mem_splitOnP_append unbroken ends
    rcases starts.eq_nil_or_concat with rfl | ⟨others, separator, is_separator, rfl⟩
    · exact mem_behind
    · rw [List.append_assoc, List.singleton_append,
        List.splitOnP_append_cons others _ is_separator]
      exact List.mem_append_right _ mem_behind

end Fields

end DiffReview.Text
