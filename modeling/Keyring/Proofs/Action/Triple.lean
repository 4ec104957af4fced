import Keyring.Action

/-!
# Triples

A triple says what an action leaves when it starts in a state with some property: one statement about the
value that it yields and the state then, another about the reason for which it stops early and the state
then.  Both matter, because stopping early takes nothing back.

Triples are put together along the structure of an action.  There is one rule for each way in which
actions are built.
-/

namespace Keyring
namespace Action

variable {σ ε α β : Type}

/-- From every state in which `P` holds, the action yields a value for which `Q` holds, or stops for a
reason for which `E` holds. -/
def Ensures
    (P : σ → Prop)
    (x : Action σ ε α)
    (Q : α → σ → Prop)
    (E : ε → σ → Prop) :
    Prop :=
  ∀ s, P s → (∀ a s', x s = (.ok a, s') → Q a s') ∧ ∀ e s', x s = (.error e, s') → E e s'

namespace Ensures

section Rules

variable {P : σ → Prop} {Q : α → σ → Prop} {R : β → σ → Prop} {E : ε → σ → Prop}
variable {x : Action σ ε α} {f : α → Action σ ε β}

/-- More may be required beforehand and less promised afterwards. -/
theorem mono
    {P' : σ → Prop}
    {Q' : α → σ → Prop}
    {E' : ε → σ → Prop}
    (h : Ensures P x Q E)
    (hP : ∀ s, P' s → P s)
    (hQ : ∀ a s, Q a s → Q' a s)
    (hE : ∀ e s, E e s → E' e s) :
    Ensures P' x Q' E' := by
  intro s hs
  obtain ⟨hok, herror⟩ := h s (hP s hs)
  exact ⟨fun a s' heq => hQ a s' (hok a s' heq), fun e s' heq => hE e s' (herror e s' heq)⟩

/-- An action that never stops early keeps every promise on stopping. -/
theorem of_never
    (h : Ensures P x Q fun _ _ => False) :
    Ensures P x Q E :=
  h.mono (fun _ hs => hs) (fun _ _ hq => hq) fun _ _ hfalse => hfalse.elim

/-- What holds of the state that an action leaves holds however it ends. -/
theorem of_snd
    {Q : σ → Prop}
    (h : ∀ s, P s → Q (x s).2) :
    Ensures P x (fun _ => Q) (fun _ => Q) := by
  intro s hs
  have hafter := h s hs
  constructor
  · intro a s' heq
    rwa [heq] at hafter
  · intro e s' heq
    rwa [heq] at hafter

/-- What holds however an action ends holds of the state that it leaves. -/
theorem snd
    {Q : σ → Prop}
    (h : Ensures P x (fun _ => Q) (fun _ => Q))
    {s : σ}
    (hs : P s) :
    Q (x s).2 := by
  obtain ⟨hok, herror⟩ := h s hs
  cases heq : x s with
  | mk r s' =>
      cases r with
      | ok a => exact hok a s' heq
      | error e => exact herror e s' heq

/-- What does not depend on the state can be assumed beforehand. -/
theorem assume
    {fact : Prop}
    (h : fact → Ensures P x Q E) :
    Ensures (fun s => fact ∧ P s) x Q E :=
  fun s hs => h hs.1 s hs.2

theorem bind
    (hx : Ensures P x Q E)
    (hf : ∀ a, Ensures (Q a) (f a) R E) :
    Ensures P (x >>= f) R E := by
  intro s hs
  obtain ⟨hok, herror⟩ := hx s hs
  rw [bind_apply]
  split
  · next a s₁ heq => exact hf a s₁ (hok a s₁ heq)
  · next e s₁ heq =>
      constructor
      · rintro b s' ⟨⟩
      · rintro e' s' ⟨⟩
        exact herror e s₁ heq

theorem pure
    {a : α}
    (h : ∀ s, P s → Q a s) :
    Ensures P (Pure.pure a : Action σ ε α) Q E := by
  intro s hs
  constructor
  · rintro a' s' ⟨⟩
    exact h s hs
  · rintro e s' ⟨⟩

theorem view
    {g : σ → α}
    (h : ∀ s, P s → Q (g s) s) :
    Ensures P (Action.view g : Action σ ε α) Q E := by
  intro s hs
  constructor
  · rintro a s' ⟨⟩
    exact h s hs
  · rintro e s' ⟨⟩

theorem change
    {g : σ → σ}
    {Q : Unit → σ → Prop}
    (h : ∀ s, P s → Q () (g s)) :
    Ensures P (Action.change g : Action σ ε Unit) Q E := by
  intro s hs
  constructor
  · rintro a s' ⟨⟩
    exact h s hs
  · rintro e s' ⟨⟩

theorem ite
    {c : Prop}
    [Decidable c]
    {y : Action σ ε α}
    (hx : c → Ensures P x Q E)
    (hy : ¬ c → Ensures P y Q E) :
    Ensures P (if c then x else y) Q E := by
  split
  · next hc => exact hx hc
  · next hc => exact hy hc

end Rules

section Stopping

variable {P : σ → Prop} {Q : α → σ → Prop} {E : Abort → σ → Prop}

theorem fail
    {f : Failure}
    (h : ∀ s, P s → E (.failed f) s) :
    Ensures P (Action.fail f : Action σ Abort α) Q E := by
  intro s hs
  constructor
  · rintro a s' ⟨⟩
  · rintro e s' ⟨⟩
    exact h s hs

theorem check
    {r : Except Failure α}
    (hok : ∀ a s, r = .ok a → P s → Q a s)
    (herror : ∀ f s, r = .error f → P s → E (.failed f) s) :
    Ensures P (Action.check r) Q E := by
  intro s hs
  cases r with
  | error f =>
      constructor
      · rintro a s' ⟨⟩
      · rintro e s' ⟨⟩
        exact herror f s rfl hs
  | ok a =>
      constructor
      · rintro a' s' ⟨⟩
        exact hok a s rfl hs
      · rintro e s' ⟨⟩

theorem orCrash
    {r : Option α}
    (hsome : ∀ a s, r = some a → P s → Q a s)
    (hnone : ∀ s, r = none → P s → E .crashed s) :
    Ensures P (Action.orCrash r) Q E := by
  intro s hs
  cases r with
  | none =>
      constructor
      · rintro a s' ⟨⟩
      · rintro e s' ⟨⟩
        exact hnone s rfl hs
  | some a =>
      constructor
      · rintro a' s' ⟨⟩
        exact hsome a s rfl hs
      · rintro e s' ⟨⟩

/-- A value that is there does not stop an action. -/
theorem orCrash_of_exists
    {r : Option α}
    (h : ∃ a, r = some a) :
    Ensures P (Action.orCrash r) (fun _ => P) E := by
  obtain ⟨a, rfl⟩ := h
  exact Ensures.pure fun _ hs => hs

end Stopping

end Ensures

/-- Whether an action keeps a property, however it ends. -/
def Keeps
    (P : σ → Prop)
    (x : Action σ ε α) :
    Prop :=
  Ensures P x (fun _ => P) (fun _ => P)

namespace Keeps

variable {P : σ → Prop}

/-- An action keeps a property if the property holds of the state that it leaves. -/
theorem of_snd
    {x : Action σ ε α}
    (h : ∀ s, P s → P (x s).2) :
    Keeps P x :=
  Ensures.of_snd h

theorem bind
    {x : Action σ ε α}
    {f : α → Action σ ε β}
    (hx : Keeps P x)
    (hf : ∀ a, Keeps P (f a)) :
    Keeps P (x >>= f) :=
  Ensures.bind hx hf

theorem pure
    (a : α) :
    Keeps P (Pure.pure a : Action σ ε α) :=
  Ensures.pure fun _ hs => hs

theorem view
    (g : σ → α) :
    Keeps P (Action.view g : Action σ ε α) :=
  Ensures.view fun _ hs => hs

theorem ite
    {c : Prop}
    [Decidable c]
    {x y : Action σ ε α}
    (hx : c → Keeps P x)
    (hy : ¬ c → Keeps P y) :
    Keeps P (if c then x else y) :=
  Ensures.ite hx hy

theorem fail
    (f : Failure) :
    Keeps P (Action.fail f : Action σ Abort α) :=
  Ensures.fail fun _ hs => hs

theorem check
    (r : Except Failure α) :
    Keeps P (Action.check r) :=
  Ensures.check (fun _ _ _ hs => hs) fun _ _ _ hs => hs

theorem orCrash
    (r : Option α) :
    Keeps P (Action.orCrash r) :=
  Ensures.orCrash (fun _ _ _ hs => hs) fun _ _ hs => hs

end Keeps
end Action
end Keyring
