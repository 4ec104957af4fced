import Keyring.Failure

/-!
# Actions

An action works on a state and either yields a value or stops early.  Stopping early does not take
back what was done: the state it leaves is part of the outcome.  Commands stop with a failure, or
because an instant has no text, in which case the program ends without a report.
-/

namespace Keyring

/-- Why a command stops early. -/
inductive Abort
  | failed (failure : Failure)
  | crashed
deriving Repr

/-- A function on a state that yields a value or stops early. -/
def Action (σ ε α : Type) : Type :=
  σ → Except ε α × σ

namespace Action

variable {σ ε α β : Type}

/-- The action that yields a value and does nothing. -/
def done (a : α) : Action σ ε α := fun s => (.ok a, s)

/-- The action that stops at once. -/
def stop (e : ε) : Action σ ε α := fun s => (.error e, s)

/-- One action after another; the second does not happen when the first stops. -/
def andThen (x : Action σ ε α) (f : α → Action σ ε β) : Action σ ε β := fun s =>
  match x s with
  | (.ok a, s) => f a s
  | (.error e, s) => (.error e, s)

instance : Monad (Action σ ε) where
  pure := done
  bind := andThen

/-- Yields a part of the state. -/
def view (f : σ → α) : Action σ ε α := fun s => (.ok (f s), s)

/-- Changes the state. -/
def change (f : σ → σ) : Action σ ε Unit := fun s => (.ok (), f s)

/-- Yields the value of a result, or stops with its error. -/
def ofExcept (r : Except ε α) : Action σ ε α := fun s => (r, s)

@[simp] theorem pure_apply (a : α) (s : σ) : (pure a : Action σ ε α) s = (.ok a, s) := rfl

@[simp] theorem bind_apply (x : Action σ ε α) (f : α → Action σ ε β) (s : σ) :
    (x >>= f) s =
      match x s with
      | (.ok a, s) => f a s
      | (.error e, s) => (.error e, s) := rfl

@[simp] theorem done_apply (a : α) (s : σ) : (done a : Action σ ε α) s = (.ok a, s) := rfl

@[simp] theorem stop_apply (e : ε) (s : σ) : (stop e : Action σ ε α) s = (.error e, s) := rfl

@[simp] theorem view_apply (f : σ → α) (s : σ) : (view f : Action σ ε α) s = (.ok (f s), s) := rfl

@[simp] theorem change_apply (f : σ → σ) (s : σ) :
    (change f : Action σ ε Unit) s = (.ok (), f s) := rfl

@[simp] theorem ofExcept_apply (r : Except ε α) (s : σ) : (ofExcept r : Action σ ε α) s = (r, s) :=
  rfl

/-- Stops with a failure. -/
def fail (f : Failure) : Action σ Abort α := stop (.failed f)

/-- Yields the value of a result, or stops with its failure. -/
def check (r : Except Failure α) : Action σ Abort α := ofExcept (r.mapError .failed)

/-- Yields a value that has to be there for the program to go on. -/
def orCrash (r : Option α) : Action σ Abort α :=
  ofExcept (match r with | some a => .ok a | none => .error .crashed)

end Action
end Keyring
