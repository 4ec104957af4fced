import Keyring.Action

/-!
# Taking actions apart

An action that has succeeded is taken apart step by step: each lemma says what must have happened for
one kind of action to yield a value.
-/

namespace Keyring
namespace Action

variable {σ ε α β : Type}

/-- Two actions in a row yield a value when the first does and the second does after it. -/
theorem bind_eq_ok
    {x : Action σ ε α}
    {f : α → Action σ ε β}
    {s s' : σ}
    {b : β} :
    (x >>= f) s = (.ok b, s') ↔ ∃ a s₁, x s = (.ok a, s₁) ∧ f a s₁ = (.ok b, s') := by
  rw [bind_apply]
  split
  · next a s₁ hx =>
      constructor
      · intro h
        exact ⟨a, s₁, hx, h⟩
      · rintro ⟨a', s₁', hx', h⟩
        rw [hx] at hx'
        cases hx'
        exact h
  · next e s₁ hx =>
      constructor
      · rintro ⟨⟩
      · rintro ⟨a, s₁', hx', -⟩
        rw [hx] at hx'
        cases hx'

/-- Two actions in a row stop early when the first does, or when the second does after it. -/
theorem bind_eq_error
    {x : Action σ ε α}
    {f : α → Action σ ε β}
    {s s' : σ}
    {e : ε} :
    (x >>= f) s = (.error e, s') ↔
      x s = (.error e, s') ∨ ∃ a s₁, x s = (.ok a, s₁) ∧ f a s₁ = (.error e, s') := by
  rw [bind_apply]
  split
  · next a s₁ hx =>
      constructor
      · intro h
        exact .inr ⟨a, s₁, hx, h⟩
      · rintro (hx' | ⟨a', s₁', hx', h⟩)
        · rw [hx] at hx'
          cases hx'
        · rw [hx] at hx'
          cases hx'
          exact h
  · next e' s₁ hx =>
      constructor
      · rintro ⟨⟩
        exact .inl hx
      · rintro (hx' | ⟨a', s₁', hx', -⟩)
        · rw [hx] at hx'
          cases hx'
          rfl
        · rw [hx] at hx'
          cases hx'

/-- A value is yielded without a change. -/
theorem pure_eq_ok
    {a b : α}
    {s s' : σ} :
    (pure a : Action σ ε α) s = (.ok b, s') ↔ a = b ∧ s = s' := by
  simp

@[simp] theorem check_ok_apply (a : α) (s : σ) :
    (check (.ok a) : Action σ Abort α) s = (.ok a, s) := rfl

@[simp] theorem check_error_apply (f : Failure) (s : σ) :
    (check (.error f) : Action σ Abort α) s = (.error (.failed f), s) := rfl

/-- A check yields the value of its result without a change. -/
theorem check_eq_ok
    {r : Except Failure α}
    {a : α}
    {s s' : σ} :
    check r s = (.ok a, s') ↔ r = .ok a ∧ s = s' := by
  cases r with
  | error f =>
      constructor
      · rintro ⟨⟩
      · rintro ⟨⟨⟩, -⟩
  | ok a' =>
      constructor
      · rintro ⟨⟩
        exact ⟨rfl, rfl⟩
      · rintro ⟨⟨⟩, rfl⟩
        rfl

/-- A check stops with the failure of its result without a change. -/
theorem check_eq_error
    {r : Except Failure α}
    {abort : Abort}
    {s s' : σ} :
    (check r : Action σ Abort α) s = (.error abort, s') ↔
      (∃ f, r = .error f ∧ abort = .failed f) ∧ s = s' := by
  cases r with
  | error f => simp [eq_comm]
  | ok a => simp

/-- A value that has to be there is yielded without a change. -/
theorem orCrash_eq_ok
    {r : Option α}
    {a : α}
    {s s' : σ} :
    orCrash r s = (.ok a, s') ↔ r = some a ∧ s = s' := by
  cases r with
  | none => simp [orCrash]
  | some a' => simp [orCrash]

/-- A failure yields nothing. -/
theorem fail_ne_ok
    {f : Failure}
    {a : α}
    {s s' : σ} :
    (fail f : Action σ Abort α) s ≠ (.ok a, s') := by
  simp [fail]

/-- A value that satisfies a test has been yielded. -/
theorem exists_of_any_toOption
    {r : Except ε α}
    {p : α → Bool}
    (h : r.toOption.any p = true) :
    ∃ a, r = .ok a ∧ p a = true := by
  cases r with
  | error e => cases h
  | ok a => exact ⟨a, rfl, h⟩

/-- An action whose value satisfies a test has succeeded. -/
theorem exists_of_any_fst
    {outcome : Except ε α × σ}
    {p : α → Bool}
    (h : outcome.1.toOption.any p = true) :
    ∃ a s, outcome = (.ok a, s) ∧ p a = true := by
  obtain ⟨a, ha, hp⟩ := exists_of_any_toOption h
  exact ⟨a, outcome.2, Prod.ext ha rfl, hp⟩

/-- An action that yields nothing has stopped early. -/
theorem exists_of_isNone_toOption
    {outcome : Except ε α × σ}
    (h : outcome.1.toOption.isNone = true) :
    ∃ e s, outcome = (.error e, s) := by
  obtain ⟨result, s⟩ := outcome
  cases result with
  | error e => exact ⟨e, s, rfl⟩
  | ok a => cases h

end Action
end Keyring
