import Keyring.Action
import Keyring.Selector.Chain
import Keyring.Store.Marker
import Keyring.Store.Vault

/-!
# Choosing the key for a launch

A name that is given decides; otherwise the default, when it is asked for; otherwise the selectors,
with the last-used key as a hint if it is still stored.  The chosen name must be stored.  A name that
did not come from the default becomes the last-used one; whether that can be recorded does not matter.

The launched program finds the secret and the base URL in its environment.
-/

namespace Keyring

/-- What is asked for. -/
structure Request where
  key : Option String
  useDefault : Bool
deriving DecidableEq, Repr

/-- How a key was chosen. -/
inductive KeySource
  | explicit
  | default
  | interactive
deriving DecidableEq, Repr

/-- The name of a way of choosing. -/
def KeySource.name : KeySource → String
  | .explicit => "explicit"
  | .default => "default"
  | .interactive => "interactive"

/-- A key that has been chosen. -/
structure Resolved where
  key : Profile
  source : KeySource

namespace Resolved

/-- The variables of the launched program, whose names start with a given text. -/
def bindings (r : Resolved) (start : String) : List (String × String) :=
  (start ++ "AUTH_TOKEN", r.key.secret) ::
    (r.key.baseUrl.map fun u => (start ++ "BASE_URL", u.value)).toList

end Resolved

/-- Where keys are looked for and who is asked. -/
structure Chooser where
  vault : Vault
  marker : Marker
  selectors : List Selector

namespace Chooser

/-- The hint for the selectors. -/
def hint? (c : Chooser) (keys : Collection) (w : World) : Option KeyName :=
  (c.marker.get? w).filter keys.contains

/-- Asks the selectors. -/
def ask (c : Chooser) (keys : Collection) : Action World Abort KeyName := fun w =>
  if keys.isEmpty then (.error (.failed .noKeys), w)
  else
    match Selector.chooseWith c.selectors keys (c.hint? keys w) w with
    | (.ok name, w) => (.ok name, w)
    | (.error f, w) => (.error (.failed f), w)

/-- Chooses a name. -/
def name (c : Chooser) (keys : Collection) (request : Request) :
    Action World Abort (KeyName × KeySource) :=
  match request.key with
  | some raw => do
      let name ← .check (KeyName.read raw)
      return (name, .explicit)
  | none =>
      if request.useDefault then
        match keys.default? with
        | some key => pure (key.name, .default)
        | none => .fail .noDefault
      else do
        let name ← c.ask keys
        return (name, .interactive)

/-- Records the last-used name as far as that is possible. -/
def remember (c : Chooser) (name : KeyName) (source : KeySource) : Action World Abort Unit :=
  if source = .default then pure ()
  else .change fun w => (c.marker.set name w).2

/-- Chooses a key. -/
def resolve (c : Chooser) (request : Request) : Action World Abort Resolved := do
  let keys ← c.vault.load
  let (name, source) ← c.name keys request
  match keys.find? name with
  | none => .fail (.keyNotFound name.value)
  | some key =>
      c.remember name source
      return ⟨key, source⟩

end Chooser
end Keyring
