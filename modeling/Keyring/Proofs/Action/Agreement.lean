import Keyring.Action

/-!
# Two runs compared

Two actions agree if, from states that are related, both yield values or both stop early for the same
reason, and the states that they leave are related again.  The relations may change on the way: what is
known of the states where the two runs start, of the values and states when they succeed, and of the states
when they stop.

There is one rule for each way in which actions are built.
-/

namespace Keyring

section Views

variable {ε α γ : Type} {view : α → γ}

/-- Two values that look the same are both absent or both there. -/
theorem eq_none_or_eq_some_of_map_eq
    {a b : Option α}
    (h : a.map view = b.map view) :
    (a = none ∧ b = none) ∨ ∃ x y, a = some x ∧ b = some y ∧ view x = view y := by
  cases a with
  | none =>
      cases b with
      | none => exact .inl ⟨rfl, rfl⟩
      | some y => cases h
  | some x =>
      cases b with
      | none => cases h
      | some y => exact .inr ⟨x, y, rfl, rfl, Option.some.inj h⟩

/-- Two results that look the same are the same error or two values. -/
theorem eq_error_or_eq_ok_of_map_eq
    {r r' : Except ε α}
    (h : r.map view = r'.map view) :
    (∃ e, r = .error e ∧ r' = .error e) ∨ ∃ a b, r = .ok a ∧ r' = .ok b ∧ view a = view b := by
  cases r with
  | error e =>
      cases r' with
      | error e' =>
          cases h
          exact .inl ⟨e, rfl, rfl⟩
      | ok b => cases h
  | ok a =>
      cases r' with
      | error e' => cases h
      | ok b => exact .inr ⟨a, b, rfl, rfl, Except.ok.inj h⟩

end Views

namespace Action

variable {σ ε α β γ : Type}

/-- From every two states related by `P`, both actions yield values related by `Q`, with the states that
they leave, or both stop for the same reason in states related by `E`. -/
def Agree
    (P : σ → σ → Prop)
    (x y : Action σ ε α)
    (Q : α → α → σ → σ → Prop)
    (E : σ → σ → Prop) :
    Prop :=
  ∀ s t, P s t →
    (∃ a b s' t', x s = (.ok a, s') ∧ y t = (.ok b, t') ∧ Q a b s' t') ∨
      ∃ e s' t', x s = (.error e, s') ∧ y t = (.error e, t') ∧ E s' t'

namespace Agree

variable {P P' : σ → σ → Prop} {Q Q' : α → α → σ → σ → Prop} {R : β → β → σ → σ → Prop}
variable {E : σ → σ → Prop}

theorem mono
    {x y : Action σ ε α}
    (h : Agree P x y Q E)
    (hP : ∀ s t, P' s t → P s t)
    (hQ : ∀ a b s t, Q a b s t → Q' a b s t) :
    Agree P' x y Q' E := by
  intro s t hst
  rcases h s t (hP s t hst) with ⟨a, b, s', t', hx, hy, hq⟩ | hstopped
  · exact .inl ⟨a, b, s', t', hx, hy, hQ a b s' t' hq⟩
  · exact .inr hstopped

theorem bind
    {x y : Action σ ε α}
    {f g : α → Action σ ε β}
    (hxy : Agree P x y Q E)
    (hfg : ∀ a b, Agree (Q a b) (f a) (g b) R E) :
    Agree P (x >>= f) (y >>= g) R E := by
  intro s t hst
  rcases hxy s t hst with ⟨a, b, s', t', hx, hy, hq⟩ | ⟨e, s', t', hx, hy, he⟩
  · rw [bind_apply, bind_apply, hx, hy]
    exact hfg a b s' t' hq
  · rw [bind_apply, bind_apply, hx, hy]
    exact .inr ⟨e, s', t', rfl, rfl, he⟩

/-- Actions that end in the same way, and leave related states whichever way that is. -/
theorem of_fst
    {x y : Action σ ε α}
    (h : ∀ s t, P s t → (x s).1 = (y t).1 ∧ E (x s).2 (y t).2) :
    Agree P x y (fun a b s t => a = b ∧ E s t) E := by
  intro s t hst
  obtain ⟨hresult, hafter⟩ := h s t hst
  cases hx : x s with
  | mk result s' =>
      cases hy : y t with
      | mk result' t' =>
          rw [hx, hy] at hresult hafter
          cases hresult
          cases result with
          | error e => exact .inr ⟨e, s', t', rfl, rfl, hafter⟩
          | ok a => exact .inl ⟨a, a, s', t', rfl, rfl, rfl, hafter⟩

/-- What does not depend on the states can be assumed beforehand. -/
theorem assume
    {fact : Prop}
    {x y : Action σ ε α}
    (h : fact → Agree P x y Q E) :
    Agree (fun s t => fact ∧ P s t) x y Q E :=
  fun s t hst => h hst.1 s t hst.2

theorem pure
    {a b : α}
    (h : ∀ s t, P s t → Q a b s t) :
    Agree P (Pure.pure a : Action σ ε α) (Pure.pure b) Q E :=
  fun s t hst => .inl ⟨a, b, s, t, rfl, rfl, h s t hst⟩

/-- The same part of both states. -/
theorem view
    {f : σ → α}
    (hf : ∀ s t, P s t → f s = f t) :
    Agree P (Action.view f : Action σ ε α) (Action.view f) (fun a b s t => a = b ∧ P s t) E :=
  fun s t hst => .inl ⟨f s, f t, s, t, rfl, rfl, hf s t hst, hst⟩

theorem change
    {f g : σ → σ}
    {Q : Unit → Unit → σ → σ → Prop}
    (h : ∀ s t, P s t → Q () () (f s) (g t)) :
    Agree P (Action.change f : Action σ ε Unit) (Action.change g) Q E :=
  fun s t hst => .inl ⟨(), (), f s, g t, rfl, rfl, h s t hst⟩

theorem fail
    {Q : α → α → σ → σ → Prop}
    (f : Failure)
    (hE : ∀ s t, P s t → E s t) :
    Agree P (Action.fail f : Action σ Abort α) (Action.fail f) Q E :=
  fun s t hst => .inr ⟨.failed f, s, t, rfl, rfl, hE s t hst⟩

/-- Checks agree if what is compared of their results is the same. -/
theorem check
    {r r' : Except Failure α}
    {view : α → γ}
    (hview : r.map view = r'.map view)
    (hE : ∀ s t, P s t → E s t) :
    Agree P (Action.check r) (Action.check r') (fun a b s t => view a = view b ∧ P s t) E := by
  intro s t hst
  rcases eq_error_or_eq_ok_of_map_eq hview with ⟨f, rfl, rfl⟩ | ⟨a, b, rfl, rfl, hab⟩
  · exact .inr ⟨.failed f, s, t, rfl, rfl, hE s t hst⟩
  · exact .inl ⟨a, b, s, t, rfl, rfl, hab, hst⟩

/-- The same check in both. -/
theorem check_self
    (r : Except Failure α)
    (hE : ∀ s t, P s t → E s t) :
    Agree P (Action.check r) (Action.check r) (fun a b s t => a = b ∧ P s t) E := by
  have hview : r.map id = r.map id := rfl
  exact check hview hE

/-- The same value that has to be there. -/
theorem orCrash
    {r r' : Option α}
    (hr : r = r')
    (hE : ∀ s t, P s t → E s t) :
    Agree P (Action.orCrash r : Action σ Abort α) (Action.orCrash r')
      (fun a b s t => a = b ∧ P s t) E := by
  subst hr
  intro s t hst
  cases r with
  | none => exact .inr ⟨.crashed, s, t, rfl, rfl, hE s t hst⟩
  | some a => exact .inl ⟨a, a, s, t, rfl, rfl, rfl, hst⟩

/-- Two branches are taken by the same test. -/
theorem ite
    {p q : Prop}
    [Decidable p]
    [Decidable q]
    {x x' y y' : Action σ ε α}
    (hpq : p ↔ q)
    (hx : p → Agree P x x' Q E)
    (hy : ¬ p → Agree P y y' Q E) :
    Agree P (if p then x else y) (if q then x' else y') Q E := by
  by_cases hp : p
  · rw [if_pos hp, if_pos (hpq.1 hp)]
    exact hx hp
  · rw [if_neg hp, if_neg fun hq => hp (hpq.2 hq)]
    exact hy hp

end Agree
end Action
end Keyring
