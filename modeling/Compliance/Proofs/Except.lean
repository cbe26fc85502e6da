import Mathlib.Data.List.Forall2

/-!
# Results and failures

How a result or a failure of several steps comes about.  With these lemmas a
program written in steps is taken apart one step at a time.
-/

namespace Except

variable {ε δ α β : Type}

/-- A step after a result goes on with the result. -/
theorem ok_bind (value : α) (next : α → Except ε β) : (ok value >>= next) = next value := rfl

/-- Two steps succeed if the first one does and then the second one. -/
theorem bind_eq_ok_iff {first : Except ε α} {next : α → Except ε β} {result : β} :
    first >>= next = .ok result ↔ ∃ value, first = .ok value ∧ next value = .ok result := by
  cases first with
  | error failure => simp [bind, Except.bind]
  | ok value => simp [bind, Except.bind]

/-- Two steps fail if the first one does, or the second one after it. -/
theorem bind_eq_error_iff {first : Except ε α} {next : α → Except ε β} {failure : ε} :
    first >>= next = .error failure ↔
      first = .error failure ∨ ∃ value, first = .ok value ∧ next value = .error failure := by
  cases first with
  | error failure => simp [bind, Except.bind]
  | ok value => simp [bind, Except.bind]

/-- A result does not depend on how failures are reported. -/
theorem mapError_eq_ok_iff {step : Except ε α} {report : ε → δ} {result : α} :
    step.mapError report = .ok result ↔ step = .ok result := by
  cases step with
  | error failure =>
      show error (report failure) = ok result ↔ error failure = ok result
      simp
  | ok value => exact ⟨fun heq => congrArg ok (ok.inj heq), fun heq => congrArg ok (ok.inj heq)⟩

/-- A reported failure is the report of a failure. -/
theorem mapError_eq_error_iff {step : Except ε α} {report : ε → δ} {failure : δ} :
    step.mapError report = .error failure ↔
      ∃ cause, step = .error cause ∧ failure = report cause := by
  cases step with
  | error cause =>
      show error (report cause) = error failure ↔ _
      simp [eq_comm]
  | ok value =>
      show ok value = error failure ↔ _
      simp

/-- A step that is made for each item of a list succeeds if it does for every item. -/
theorem mapM_eq_ok_iff {step : α → Except ε β} {items : List α} {results : List β} :
    items.mapM step = .ok results ↔
      List.Forall₂ (fun item result => step item = .ok result) items results := by
  induction items generalizing results with
  | nil => simp [pure, Except.pure, eq_comm]
  | cons item others ih =>
      rw [List.mapM_cons, bind_eq_ok_iff, List.forall₂_cons_left_iff]
      constructor
      · rintro ⟨result, hitem, hothers⟩
        obtain ⟨rest, hrest, hresults⟩ := bind_eq_ok_iff.mp hothers
        exact ⟨result, rest, hitem, ih.mp hrest, (ok.inj hresults).symm⟩
      · rintro ⟨result, rest, hitem, hrest, rfl⟩
        exact ⟨result, hitem, bind_eq_ok_iff.mpr ⟨rest, ih.mpr hrest, rfl⟩⟩

/-- Two steps succeed if the first one does, and the second one does for all its results alike. -/
theorem exists_bind_eq_ok_iff {first : Except ε α} {next : α → Except ε β} {before after : Prop}
    (hfirst : (∃ value, first = .ok value) ↔ before)
    (hnext : ∀ value, first = .ok value → ((∃ result, next value = .ok result) ↔ after)) :
    (∃ result, first >>= next = .ok result) ↔ before ∧ after := by
  rw [← hfirst]
  simp only [bind_eq_ok_iff]
  constructor
  · rintro ⟨result, value, hvalue, hresult⟩
    exact ⟨⟨value, hvalue⟩, (hnext value hvalue).mp ⟨result, hresult⟩⟩
  · rintro ⟨⟨value, hvalue⟩, hafter⟩
    obtain ⟨result, hresult⟩ := (hnext value hvalue).mpr hafter
    exact ⟨result, value, hvalue, hresult⟩

/-- What is made of the result of a step does not matter for its success. -/
theorem exists_bind_pure_eq_ok_iff {first : Except ε α} {made : α → β} {before : Prop}
    (hfirst : (∃ value, first = .ok value) ↔ before) :
    (∃ result, (first >>= fun value => pure (made value)) = .ok result) ↔ before := by
  have hmade : ∀ value, first = .ok value →
      ((∃ result, (pure (made value) : Except ε β) = .ok result) ↔ True) :=
    fun value _ => iff_true_intro ⟨made value, rfl⟩
  rw [exists_bind_eq_ok_iff hfirst hmade, and_true]

/-- There are results for all items of a list if there is one for each. -/
theorem exists_mapM_eq_ok_iff {step : α → Except ε β} {items : List α} :
    (∃ results, items.mapM step = .ok results) ↔
      ∀ item ∈ items, ∃ result, step item = .ok result := by
  simp only [mapM_eq_ok_iff]
  induction items with
  | nil => simp
  | cons item others ih =>
      rw [List.forall_mem_cons, ← ih]
      constructor
      · rintro ⟨_, _ | ⟨hitem, hothers⟩⟩
        exact ⟨⟨_, hitem⟩, _, hothers⟩
      · rintro ⟨⟨result, hitem⟩, results, hothers⟩
        exact ⟨result :: results, .cons hitem hothers⟩

theorem toOption_eq_some_iff {step : Except ε α} {value : α} :
    step.toOption = some value ↔ step = .ok value := by
  cases step <;> simp [Except.toOption]

/-- What can be seen of a result shows that there is one. -/
theorem exists_ok_of_map_toOption_eq_some {step : Except ε α} {view : α → β} {seen : β}
    (hseen : step.toOption.map view = some seen) :
    ∃ value, step = .ok value ∧ view value = seen := by
  cases step with
  | error failure => cases hseen
  | ok value => exact ⟨value, rfl, Option.some.inj hseen⟩

end Except
