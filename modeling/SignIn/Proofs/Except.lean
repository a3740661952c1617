/-!
# Results

When a result that has been changed is a success, and when it is a failure.
-/

namespace SignIn

variable {ε δ α β : Type}

/-- A result that is known to be a success has a content. -/
theorem exists_of_isOk {result : Except ε α} (success : result.isOk = true) :
    ∃ content, result = .ok content := by
  cases result with
  | error error => cases success
  | ok content => exact ⟨content, rfl⟩

@[simp]
theorem mapError_ok {change : ε → δ} {content : α} :
    (Except.ok content : Except ε α).mapError change = .ok content := rfl

@[simp]
theorem mapError_error {change : ε → δ} {error : ε} :
    (Except.error error : Except ε α).mapError change = .error (change error) := rfl

@[simp]
theorem mapError_eq_ok_iff {result : Except ε α} {change : ε → δ} {content : α} :
    result.mapError change = .ok content ↔ result = .ok content := by
  cases result <;> simp

@[simp]
theorem mapError_eq_error_iff {result : Except ε α} {change : ε → δ} {error : δ} :
    result.mapError change = .error error ↔
      ∃ before, result = .error before ∧ change before = error := by
  cases result <;> simp

@[simp]
theorem map_eq_ok_iff {result : Except ε α} {change : α → β} {content : β} :
    result.map change = .ok content ↔ ∃ before, result = .ok before ∧ change before = content := by
  cases result <;> simp [Except.map]

@[simp]
theorem map_eq_error_iff {result : Except ε α} {change : α → β} {error : ε} :
    result.map change = .error error ↔ result = .error error := by
  cases result <;> simp [Except.map]

/-- A fold fails only in one of its steps. -/
theorem foldlM_error {step : β → α → Except ε β} {Blames : ε → Prop}
    (blamed : ∀ before item error, step before item = .error error → Blames error)
    {items : List α} {start : β} {error : ε} (failed : items.foldlM step start = .error error) :
    Blames error := by
  induction items generalizing start with
  | nil => cases failed
  | cons item items ih =>
    rw [List.foldlM_cons] at failed
    cases stepped : step start item with
    | error first =>
      rw [stepped] at failed
      cases failed
      exact blamed _ _ _ stepped
    | ok next =>
      rw [stepped] at failed
      exact ih failed

/-- A fold keeps what each of its steps keeps. -/
theorem foldlM_ok {step : β → α → Except ε β} {Keeps : β → Prop}
    (kept : ∀ before item next, Keeps before → step before item = .ok next → Keeps next)
    {items : List α} {start last : β} (start_ok : Keeps start)
    (folded : items.foldlM step start = .ok last) : Keeps last := by
  induction items generalizing start with
  | nil =>
    cases folded
    exact start_ok
  | cons item items ih =>
    rw [List.foldlM_cons] at folded
    cases stepped : step start item with
    | error first =>
      rw [stepped] at folded
      cases folded
    | ok next =>
      rw [stepped] at folded
      exact ih (kept _ _ _ start_ok stepped) folded

end SignIn
