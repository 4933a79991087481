import DiffReview.Form
import DiffReview.Proofs.Text.Percent

/-!
# Values in forms

A value that is written into a form is found there again, whatever characters it has and whatever
other fields stand before and after it.
-/

namespace DiffReview.Form

open Text

/-! ## Escaped texts -/

/-- The characters that stand for themselves in a form. -/
def keptCharacters : List Char :=
  "ABCDEFGHIJKLMNOPQRSTUVWXYZabcdefghijklmnopqrstuvwxyz0123456789_.-~".toList

/-- Whether a character has no escape in a form: it stands for itself, or it is a space. -/
def isUnescaped (character : Char) : Bool :=
  (' ' :: keptCharacters).contains character

/-- A text as it is written in a form: a space as a plus sign, and all else with escapes that does
not stand for itself. -/
def escape (text : List Char) : List Char :=
  (Percent.encode isUnescaped text).map fun character => if character = ' ' then '+' else character

theorem isPlain_of_isUnescaped (character : Char) (unescaped : isUnescaped character = true) :
    isAscii character = true ∧ character ≠ '%' := by
  have kept_ascii : (' ' :: keptCharacters).all isAscii = true := by decide +kernel
  have no_percent : '%' ∉ ' ' :: keptCharacters := by decide +kernel
  have mem := List.contains_iff_mem.mp unescaped
  refine ⟨List.all_eq_true.mp kept_ascii character mem, ?_⟩
  rintro rfl
  exact no_percent mem

theorem ne_of_mem_encode {text : List Char} {character : Char}
    (mem : character ∈ Percent.encode isUnescaped text) : character ≠ '+' ∧ character ≠ '&' := by
  have no_marks : '+' ∉ (' ' :: keptCharacters) ++ Percent.escapeCharacters ∧
      '&' ∉ (' ' :: keptCharacters) ++ Percent.escapeCharacters := by
    decide +kernel
  have mem_made : character ∈ (' ' :: keptCharacters) ++ Percent.escapeCharacters := by
    rcases Percent.mem_encode character mem with unescaped | escapes
    · exact List.mem_append_left _ (List.contains_iff_mem.mp unescaped)
    · exact List.mem_append_right _ escapes
  refine ⟨?_, ?_⟩ <;> rintro rfl
  · exact no_marks.1 mem_made
  · exact no_marks.2 mem_made

/-- The plus signs of an escaped text stand for its spaces only. -/
theorem map_plus_escape (text : List Char) :
    ((escape text).map fun character => if character = '+' then ' ' else character) =
      Percent.encode isUnescaped text := by
  rw [escape, List.map_map]
  refine (List.map_congr_left fun character mem => ?_).trans (List.map_id _)
  by_cases space : character = ' '
  · simp [space]
  · simp [space, (ne_of_mem_encode mem).1]

theorem unescape_escape (text : List Char) : unescape (escape text) = text := by
  rw [unescape, map_plus_escape, Percent.decode_encode isPlain_of_isUnescaped]

theorem ampersand_not_mem_escape (text : List Char) : '&' ∉ escape text := by
  intro mem
  obtain ⟨character, mem, replaced⟩ := List.mem_map.mp mem
  split at replaced
  · simp at replaced
  · exact (ne_of_mem_encode mem).2 replaced

theorem escape_ne_nil {text : List Char} (some_text : text ≠ []) : escape text ≠ [] := by
  intro empty
  have text_eq := unescape_escape text
  rw [empty] at text_eq
  exact some_text text_eq.symm

theorem escape_of_kept {text : List Char} (kept : ∀ character ∈ text, character ∈ keptCharacters) :
    escape text = text := by
  have no_space : ' ' ∉ keptCharacters := by decide +kernel
  rw [escape, Percent.encode_of_safe]
  · refine (List.map_congr_left fun character mem => if_neg ?_).trans (List.map_id text)
    rintro rfl
    exact no_space (kept _ mem)
  · exact fun character mem => List.contains_iff_mem.mpr (List.mem_cons_of_mem _ (kept _ mem))

/-! ## Forms with a value -/

/-- The name that a field of a form has, also where it has no value. -/
def nameOf (field : List Char) : List Char :=
  unescape (field.takeWhile (· != '='))

/-- A field of a form of another name. -/
structure IsOther (name : String) (field : List Char) : Prop where
  /-- It is one field. -/
  unbroken : '&' ∉ field
  /-- It has another name. -/
  differs : nameOf field ≠ name.toList

/-- A form with a value between other fields. -/
def withValue (name : String) (value : List Char) (before after : List (List Char)) : List Char :=
  ['&'].intercalate (before ++ (name.toList ++ '=' :: escape value) :: after)

theorem fields_intercalate {parts : List (List Char)} (unbroken : ∀ part ∈ parts, '&' ∉ part) :
    fields (['&'].intercalate parts) = parts.filterMap field? := by
  cases parts with
  | nil => rfl
  | cons part parts => rw [fields, List.splitOn_intercalate '&' unbroken (List.cons_ne_nil _ _)]

theorem fst_of_field? {text : List Char} {field : List Char × List Char}
    (field_eq : field? text = some field) : field.1 = nameOf text := by
  rw [field?] at field_eq
  split at field_eq
  · obtain rfl := Option.some.inj field_eq
    rfl
  · cases field_eq

theorem lookup_filterMap_append {name : String} {before : List (List Char)}
    (others : ∀ part ∈ before, nameOf part ≠ name.toList) (parts : List (List Char)) :
    ((before ++ parts).filterMap field?).lookup name.toList =
      (parts.filterMap field?).lookup name.toList := by
  induction before with
  | nil => rfl
  | cons part before induction =>
      obtain ⟨other, others⟩ := List.forall_mem_cons.mp others
      rw [List.cons_append, List.filterMap_cons]
      cases field_eq : field? part with
      | none => exact induction others
      | some field =>
          have differs : (name.toList == field.1) = false := by
            rw [fst_of_field? field_eq, beq_eq_false_iff_ne]
            exact fun same => other same.symm
          rw [List.lookup_cons, differs]
          exact induction others

theorem field?_value {name value : List Char} (no_equals : '=' ∉ name) (some_value : value ≠ []) :
    field? (name ++ '=' :: value) = some (unescape name, unescape value) := by
  have all_differ : ∀ character ∈ name, (character != '=') = true := by
    intro character mem
    rw [bne_iff_ne]
    rintro rfl
    exact no_equals mem
  obtain ⟨first, rest, rfl⟩ := List.exists_cons_of_ne_nil some_value
  have behind : (name ++ '=' :: first :: rest).dropWhile (· != '=') = '=' :: first :: rest := by
    rw [List.dropWhile_append_of_pos all_differ]
    rfl
  have ahead : (name ++ '=' :: first :: rest).takeWhile (· != '=') = name := by
    rw [List.takeWhile_append_of_pos all_differ]
    exact List.append_nil name
  rw [field?, behind, ahead]

/-- A value that is written into a form is found under its name. -/
theorem value?_withValue {name : String}
    (kept : ∀ character ∈ name.toList, character ∈ keptCharacters)
    {value : List Char} (some_value : value ≠ []) {before after : List (List Char)}
    (before_other : ∀ field ∈ before, IsOther name field)
    (after_other : ∀ field ∈ after, IsOther name field) :
    value? name (withValue name value before after) = some value := by
  have marks_differ : '=' ∉ keptCharacters ∧ '&' ∉ keptCharacters := by decide +kernel
  have no_equals : '=' ∉ name.toList := fun mem => marks_differ.1 (kept _ mem)
  have no_ampersand : '&' ∉ name.toList ++ '=' :: escape value := by
    have not_in_name : '&' ∉ name.toList := fun mem => marks_differ.2 (kept _ mem)
    simp [not_in_name, ampersand_not_mem_escape]
  have name_eq : unescape name.toList = name.toList := by
    rw [← escape_of_kept kept, unescape_escape, escape_of_kept kept]
  have field_eq : field? (name.toList ++ '=' :: escape value) = some (name.toList, value) := by
    rw [field?_value no_equals (escape_ne_nil some_value), name_eq, unescape_escape]
  rw [value?, withValue, fields_intercalate, lookup_filterMap_append, List.filterMap_cons, field_eq]
  · simp
  · exact fun part mem => (before_other part mem).differs
  · intro part mem
    rcases List.mem_append.mp mem with mem | mem
    · exact (before_other part mem).unbroken
    · rcases List.mem_cons.mp mem with rfl | mem
      · exact no_ampersand
      · exact (after_other part mem).unbroken

end DiffReview.Form
