/-!
# Results and faults

Calendars, handlers and loaders give a value or a fault. This module says how faults come about in
results that are put together from others: in sequence, where the first fault decides, and along a
list.
-/

namespace FlightCaption

section

variable {ε ε' α β : Type}

/-! ## One result after another -/

theorem ok_bind (value : α) (next : α → Except ε β) :
    (.ok value : Except ε α) >>= next = next value := rfl

theorem bind_eq_ok_iff {result : Except ε α} {next : α → Except ε β} {value : β} :
    result >>= next = .ok value ↔ ∃ first, result = .ok first ∧ next first = .ok value := by
  cases result with
  | ok first => simp [bind, Except.bind]
  | error fault => simp [bind, Except.bind]

theorem bind_eq_error_iff {result : Except ε α} {next : α → Except ε β} {fault : ε} :
    result >>= next = .error fault ↔
      result = .error fault ∨ ∃ first, result = .ok first ∧ next first = .error fault := by
  cases result with
  | ok first => simp [bind, Except.bind]
  | error fault' => simp [bind, Except.bind]

theorem bind_pure_eq_error_iff {result : Except ε α} {f : α → β} {fault : ε} :
    (result >>= fun value => pure (f value)) = .error fault ↔ result = .error fault := by
  rw [bind_eq_error_iff]
  simp [pure, Except.pure]

@[simp] theorem mapError_ok (f : ε → ε') (value : α) :
    (.ok value : Except ε α).mapError f = .ok value := rfl

@[simp] theorem mapError_error (f : ε → ε') (fault : ε) :
    (.error fault : Except ε α).mapError f = .error (f fault) := rfl

/-- A check that fails does so for one reason. -/
theorem ite_eq_error_iff {p : Prop} [Decidable p] {value : α} {cause fault : ε} :
    (if p then .ok value else .error cause) = (.error fault : Except ε α) ↔
      ¬ p ∧ cause = fault := by
  by_cases hp : p <;> simp [hp]

theorem map_eq_error_iff {result : Except ε α} {f : α → β} {fault : ε} :
    result.map f = .error fault ↔ result = .error fault := by
  cases result with
  | ok value => simp [Except.map]
  | error cause => simp [Except.map]

theorem mapError_eq_ok_iff {result : Except ε α} {f : ε → ε'} {value : α} :
    result.mapError f = .ok value ↔ result = .ok value := by
  cases result with
  | ok first => simp
  | error fault => simp

theorem mapError_eq_error_iff {result : Except ε α} {f : ε → ε'} {fault : ε'} :
    result.mapError f = .error fault ↔ ∃ cause, result = .error cause ∧ f cause = fault := by
  cases result with
  | ok first => simp
  | error cause => simp

/-! ## Whether a result is a fault -/

/-- A result that is a fault. -/
def Fails (result : Except ε α) : Prop :=
  ∃ fault, result = .error fault

@[simp] theorem not_fails_ok (value : α) : ¬ Fails (.ok value : Except ε α) := by
  simp [Fails]

@[simp] theorem fails_error (fault : ε) : Fails (.error fault : Except ε α) :=
  ⟨fault, rfl⟩

theorem not_fails_iff {result : Except ε α} : ¬ Fails result ↔ ∃ value, result = .ok value := by
  cases result with
  | ok value => simp
  | error fault => simp

@[simp] theorem fails_bind_iff {result : Except ε α} {next : α → Except ε β} :
    Fails (result >>= next) ↔ Fails result ∨ ∃ value, result = .ok value ∧ Fails (next value) := by
  cases result with
  | ok value => simp [bind, Except.bind]
  | error fault => simp [bind, Except.bind]

/-- What comes after a result decides if it fails for every value. -/
theorem fails_bind_of_forall {result : Except ε α} {next : α → Except ε β}
    (h : ∀ value, Fails (next value)) : Fails (result >>= next) := by
  cases result with
  | ok value => exact h value
  | error fault => exact fails_error fault

theorem fails_bind_pure_iff {result : Except ε α} {f : α → β} :
    Fails (result >>= fun value => pure (f value)) ↔ Fails result := by
  rw [fails_bind_iff]
  simp [pure, Except.pure]

@[simp] theorem fails_map_iff {result : Except ε α} {f : α → β} :
    Fails (result.map f) ↔ Fails result := by
  cases result with
  | ok value => simp [Except.map]
  | error fault => simp [Except.map]

@[simp] theorem fails_mapError_iff {result : Except ε α} {f : ε → ε'} :
    Fails (result.mapError f) ↔ Fails result := by
  cases result with
  | ok value => simp
  | error fault => simp

/-! ## Results along a list -/

theorem mapM_cons_eq_error_iff {f : α → Except ε β} {x : α} {xs : List α} {fault : ε} :
    (x :: xs).mapM f = .error fault ↔
      f x = .error fault ∨ ¬ Fails (f x) ∧ xs.mapM f = .error fault := by
  rw [List.mapM_cons]
  cases f x with
  | error cause => simp [bind, Except.bind]
  | ok value => cases xs.mapM f <;> simp [bind, Except.bind, pure, Except.pure]

/-- The fault of a list is that of the first element that has one. -/
theorem mapM_eq_error_iff {f : α → Except ε β} {xs : List α} {fault : ε} :
    xs.mapM f = .error fault ↔ ∃ before x after, xs = before ++ x :: after ∧
      (∀ y ∈ before, ¬ Fails (f y)) ∧ f x = .error fault := by
  induction xs with
  | nil => simp [pure, Except.pure]
  | cons x xs ih =>
    rw [mapM_cons_eq_error_iff, ih]
    constructor
    · rintro (hx | ⟨hx, before, y, after, rfl, hbefore, hy⟩)
      · exact ⟨[], x, xs, rfl, by simp, hx⟩
      · exact ⟨x :: before, y, after, rfl, List.forall_mem_cons.mpr ⟨hx, hbefore⟩, hy⟩
    · rintro ⟨before, y, after, hsplit, hbefore, hy⟩
      cases before with
      | nil =>
        obtain ⟨rfl, -⟩ := List.cons.inj hsplit
        exact .inl hy
      | cons b before =>
        obtain ⟨rfl, rfl⟩ := List.cons.inj hsplit
        obtain ⟨hx, hbefore⟩ := List.forall_mem_cons.mp hbefore
        exact .inr ⟨hx, before, y, after, rfl, hbefore, hy⟩

theorem fails_mapM_iff {f : α → Except ε β} {xs : List α} :
    Fails (xs.mapM f) ↔ ∃ x ∈ xs, Fails (f x) := by
  induction xs with
  | nil => simp [pure, Except.pure]
  | cons x xs ih =>
    rw [List.mapM_cons, fails_bind_iff]
    simp only [fails_bind_pure_iff, ih, List.mem_cons, exists_eq_or_imp]
    cases f x with
    | ok value => simp
    | error fault => simp

end

end FlightCaption
