/-!
# Computations that may fail

When a computation that is made of others succeeds, and with which result.
-/

namespace DiffReview

theorem bind_eq_ok_iff {ε α β : Type} {first : Except ε α} {next : α → Except ε β}
    {result : β} :
    first >>= next = .ok result ↔ ∃ value, first = .ok value ∧ next value = .ok result := by
  cases first with
  | error error => simp [bind, Except.bind]
  | ok value => simp [bind, Except.bind]

/-- A result that passes a test is there. -/
theorem exists_ok_of_toOption_any {ε α : Type} {result : Except ε α} {test : α → Bool}
    (passes : result.toOption.any test = true) :
    ∃ value, result = .ok value ∧ test value = true := by
  cases result with
  | error error => cases passes
  | ok value => exact ⟨value, rfl, passes⟩

/-- A list is read element by element, and only as a whole. -/
theorem mapM_eq_ok_iff {ε α β : Type} {read : α → Except ε β} {fits : α → Prop}
    {value : α → β} (read_iff : ∀ x y, read x = .ok y ↔ fits x ∧ y = value x) {xs : List α}
    {ys : List β} : xs.mapM read = .ok ys ↔ (∀ x ∈ xs, fits x) ∧ ys = xs.map value := by
  induction xs generalizing ys with
  | nil => simp [pure, Except.pure, eq_comm]
  | cons x xs induction =>
      simp only [List.mapM_cons, bind_eq_ok_iff, read_iff, induction, List.forall_mem_cons,
        List.map_cons]
      constructor
      · rintro ⟨_, ⟨fits_first, rfl⟩, _, ⟨fits_rest, rfl⟩, ends⟩
        exact ⟨⟨fits_first, fits_rest⟩, (Except.ok.inj ends).symm⟩
      · rintro ⟨⟨fits_first, fits_rest⟩, rfl⟩
        exact ⟨_, ⟨fits_first, rfl⟩, _, ⟨fits_rest, rfl⟩, rfl⟩

/-- A list of which each element can be read can be read as a whole. -/
theorem mapM_eq_ok_map {ε α β : Type} {read : α → Except ε β} {value : α → β} {xs : List α}
    (reads : ∀ x ∈ xs, read x = .ok (value x)) : xs.mapM read = .ok (xs.map value) := by
  induction xs with
  | nil => rfl
  | cons x xs induction =>
      obtain ⟨first_eq, rest_reads⟩ := List.forall_mem_cons.mp reads
      rw [List.mapM_cons, first_eq, induction rest_reads]
      rfl

/-- Where a list cannot be read as a whole, some element cannot be read. -/
theorem exists_error_of_mapM {ε α β : Type} {read : α → Except ε β} {xs : List α} {error : ε}
    (failed : xs.mapM read = .error error) : ∃ x ∈ xs, read x = .error error := by
  induction xs with
  | nil => cases failed
  | cons x xs induction =>
      rw [List.mapM_cons] at failed
      cases first_eq : read x with
      | error other =>
          rw [first_eq] at failed
          obtain rfl := Except.error.inj failed
          exact ⟨x, List.mem_cons_self, first_eq⟩
      | ok y =>
          cases rest_eq : xs.mapM read with
          | error other =>
              rw [first_eq, rest_eq] at failed
              obtain rfl := Except.error.inj failed
              obtain ⟨other_x, mem, read_eq⟩ := induction rest_eq
              exact ⟨other_x, List.mem_cons_of_mem x mem, read_eq⟩
          | ok ys =>
              rw [first_eq, rest_eq] at failed
              cases failed

/-- What can always be read may be left out before the list is read or afterwards. -/
theorem map_filter_mapM {ε α β : Type} {read : α → Except ε β} {kept : α → Bool} {keep : β → Bool}
    (keep_eq : ∀ x y, read x = .ok y → keep y = kept x)
    (reads : ∀ x, kept x = false → ∃ y, read x = .ok y) (xs : List α) :
    (xs.mapM read).map (List.filter keep) = (xs.filter kept).mapM read := by
  induction xs with
  | nil => rfl
  | cons x xs induction =>
      cases kept_eq : kept x with
      | false =>
          obtain ⟨y, first_eq⟩ := reads x kept_eq
          have left_out : keep y = false := (keep_eq x y first_eq).trans kept_eq
          rw [List.filter_cons_of_neg (by simp [kept_eq]), List.mapM_cons, first_eq, ← induction]
          cases xs.mapM read with
          | error error => rfl
          | ok ys => exact congrArg Except.ok (List.filter_cons_of_neg (by simp [left_out]))
      | true =>
          rw [List.filter_cons_of_pos kept_eq, List.mapM_cons, List.mapM_cons, ← induction]
          cases first_eq : read x with
          | error error => rfl
          | ok y =>
              have stays : keep y = true := (keep_eq x y first_eq).trans kept_eq
              cases xs.mapM read with
              | error error => rfl
              | ok ys => exact congrArg Except.ok (List.filter_cons_of_pos stays)

theorem map_eq_ok_iff {ε α β : Type} {first : Except ε α} {fits : Prop} {value : α}
    (first_iff : ∀ other, first = .ok other ↔ fits ∧ other = value) (next : α → β) (result : β) :
    first.map next = .ok result ↔ fits ∧ result = next value := by
  cases first with
  | error error =>
      have not_fits : ¬fits := fun fits => by simpa using (first_iff value).mpr ⟨fits, rfl⟩
      simp [Except.map, not_fits]
  | ok other =>
      obtain ⟨fits, rfl⟩ := (first_iff other).mp rfl
      simp [Except.map, fits, eq_comm]

theorem map_map_except {ε α β γ : Type} (result : Except ε α) (first : α → β)
    (second : β → γ) : (result.map first).map second = result.map (second ∘ first) := by
  cases result <;> rfl

/-- Where one step hands on no more than a view of the state, so does a whole run. -/
theorem map_foldlM_congr {ε σ τ α : Type} {step : σ → α → Except ε σ} {view : σ → τ}
    (step_congr : ∀ {state other : σ} (item : α), view state = view other →
      (step state item).map view = (step other item).map view)
    {state other : σ} (same : view state = view other) (items : List α) :
    (items.foldlM step state).map view = (items.foldlM step other).map view := by
  induction items generalizing state other with
  | nil => exact congrArg Except.ok same
  | cons item items induction =>
      have step_eq := step_congr item same
      rw [List.foldlM_cons, List.foldlM_cons]
      cases next_eq : step state item with
      | error error =>
          cases other_eq : step other item with
          | error otherError =>
              simpa [next_eq, other_eq, Except.map, bind, Except.bind] using step_eq
          | ok otherNext => simp [next_eq, other_eq, Except.map] at step_eq
      | ok next =>
          cases other_eq : step other item with
          | error otherError => simp [next_eq, other_eq, Except.map] at step_eq
          | ok otherNext =>
              rw [next_eq, other_eq] at step_eq
              exact induction (Except.ok.inj step_eq)

end DiffReview
