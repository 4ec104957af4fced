import Keyring.Command.Basic
import Keyring.Command.Context
import Keyring.Command.Description
import Keyring.Report
import Keyring.Secret

/-!
# Commands that change the key store

Adding, editing and removing a key, and choosing the default.  Each checks all that it is given before
it writes, and a secret is asked for last.  Editing keeps whatever it is not told to change; a single
hyphen clears a field.  Removing asks first, and the absence of an answer counts as no.

A command that uses the key store more than once does so at different moments: a call that has succeeded
may fail the next time.
-/

namespace Keyring

/-- Reads a secret from a source. -/
def secretFrom (spec : String) : Action World Abort String := fun w =>
  match readSecret spec w with
  | (r, w) => (r.mapError .failed, w)

/-- An optional base URL. -/
def optionalBaseUrl : Option String → Except Failure (Option BaseUrl)
  | none => .ok none
  | some raw => (BaseUrl.read raw).map some

namespace NewKey

/-- The source of the secret when none is given. -/
def standardSource : String := "prompt"

/-- The failure of a name that is taken. -/
def taken (name : KeyName) : Failure :=
  (Failure.validation
    ("key '" ++ name.value ++ "' already exists; pass --overwrite to replace it")).withDetails
    (.object [("name", .string name.value)])

/-- The text of the report on a key that has been stored in a collection. -/
def confirmation (before : Collection) (key : Profile) : String :=
  (if before.contains key.name then "Replaced" else "Added") ++ " key '" ++ key.name.value ++
    "' (" ++ key.masked ++ ")" ++
    (if before.isEmpty then "\nSet as default (first key)" else "")

end NewKey

namespace KeyEdit

/-- The text that clears a field. -/
def clearing : String := "-"

/-- Whether a text clears a field. -/
def clears (raw : String) : Bool :=
  Text.trimmed raw == clearing

/-- Whether nothing is to be changed. -/
def isVoid (e : KeyEdit) : Bool :=
  e.secret.isNone && e.baseUrl.isNone && e.note.isNone

/-- The failure of a change of nothing. -/
def nothingToChange : Failure :=
  .validation "nothing to change; pass --secret, --base-url or --note"

/-- The base URL that a text stands for. -/
def endpoint (raw : String) : Except Failure (Option BaseUrl) :=
  if clears raw then .ok none else (BaseUrl.read raw).map some

/-- The note that a text stands for. -/
def noteOf (raw : String) : Option String :=
  if clears raw then none else Text.normalized? raw

/-- The profile with its base URL changed. -/
def changeBaseUrl (e : KeyEdit) (key : Profile) : Except Failure Profile :=
  match e.baseUrl with
  | none => .ok key
  | some raw => (endpoint raw).map key.withBaseUrl

/-- The profile with its note changed. -/
def changeNote (e : KeyEdit) (key : Profile) : Profile :=
  match e.note with
  | none => key
  | some raw => key.withNote (noteOf raw)

/-- The profile with its secret changed. -/
def changeSecret (e : KeyEdit) (key : Profile) : Action World Abort Profile :=
  match e.secret with
  | none => pure key
  | some spec => do
      let secret ← secretFrom spec
      return key.withSecret secret

/-- The names of the fields that are changed. -/
def changed (e : KeyEdit) : List String :=
  (if e.baseUrl.isSome then ["baseUrl"] else []) ++ (if e.note.isSome then ["note"] else []) ++
    (if e.secret.isSome then ["key"] else [])

/-- The text of the report on a key that has been changed. -/
def confirmation (e : KeyEdit) (key : Profile) : String :=
  "Updated key '" ++ key.name.value ++ "' (" ++ String.intercalate ", " e.changed ++ ")"

end KeyEdit

namespace Removal

/-- The question that is asked before a key is removed. -/
def question (name : KeyName) (wasDefault : Bool) : String :=
  "Remove key '" ++ name.value ++
    (if wasDefault then "'? It is the current default. [y/N]: " else "'? [y/N]: ")

/-- Whether an answer agrees. -/
def agrees (answer : String) : Bool :=
  ["y", "yes"].contains (Text.trimmed answer).toLower

/-- Asks whether to remove a key. -/
def confirm (name : KeyName) (wasDefault : Bool) : Action World Abort Bool := fun w =>
  match w.ask (question name wasDefault) with
  | (.ok answer, w) => (.ok (agrees answer), w)
  | (.error _, w) => (.ok false, w)

/-- The text of the report on a key that has been removed. -/
def confirmation (name : KeyName) (wasDefault : Bool) : String :=
  "Removed key '" ++ name.value ++ "'" ++
    (if wasDefault then "\nNo default key is set now; run 'keyswitch use <name>' to pick one"
    else "")

/-- The report on a removal that was called off. -/
def cancelled (name : KeyName) : Report :=
  .notice (.object [("removed", .bool false), ("name", .string name.value)]) "Cancelled"

/-- The report on a removal. -/
def report (name : KeyName) (wasDefault : Bool) : Report :=
  .notice
    (.object [("removed", .bool true), ("name", .string name.value),
      ("wasDefault", .bool wasDefault)])
    (confirmation name wasDefault)

end Removal

namespace Context

/-- What is done at a later moment. -/
def later {α : Type} (x : Action World Abort α) : Action World Abort α := do
  .change FileSystem.elapse
  x

/-- Stores a key, in the place of the one with its name if there is one. -/
def store (c : Context) (before : Collection) (key : Profile) : Action World Abort Unit :=
  if before.contains key.name then c.vault.update key else c.vault.add key

/-- Adds a key. -/
def add (c : Context) (new : NewKey) : Action World Abort Report := do
  let name ← .check (KeyName.read new.name)
  let baseUrl ← .check (optionalBaseUrl new.baseUrl)
  let before ← c.vault.load
  if before.contains name && !new.overwrite then .fail (NewKey.taken name)
  else
    let secret ← secretFrom (new.secret.getD NewKey.standardSource)
    let key := Profile.create name secret baseUrl (new.note.bind Text.normalized?) c.now
    later (c.store before key)
    let data ← .orCrash (key.description? (before.isEmpty || before.isDefault name))
    return .notice
      (.object [("key", data), ("replaced", .bool (before.contains name))])
      (NewKey.confirmation before key)

/-- Changes a key. -/
def edit (c : Context) (change : KeyEdit) : Action World Abort Report := do
  let name ← .check (KeyName.read change.name)
  if change.isVoid then .fail KeyEdit.nothingToChange
  else
    match ← c.vault.find name with
    | none => .fail (.keyNotFound name.value)
    | some key =>
        let key ← .check (change.changeBaseUrl key)
        let key ← change.changeSecret (change.changeNote key)
        later (c.vault.update key)
        let standing ← later c.vault.getDefault
        let data ← .orCrash (key.description? (standing.any fun p => p.name == name))
        return .notice
          (.object [("key", data), ("changed", .array (change.changed.map .string))])
          (change.confirmation key)

/-- Clears the marker if it names a key, as far as that is possible. -/
def forget (c : Context) (name : KeyName) : Action World Abort Unit :=
  .change fun w => if c.marker.get? w = some name then (c.marker.clear w).2 else w

/-- Removes a key without asking. -/
def removeStored (c : Context) (name : KeyName) (wasDefault : Bool) :
    Action World Abort Report := do
  let _ ← later (c.vault.remove name)
  c.forget name
  return Removal.report name wasDefault

/-- Removes a key, asking first unless that is confirmed already. -/
def remove (c : Context) (raw : String) (confirmed : Bool) : Action World Abort Report := do
  let name ← .check (KeyName.read raw)
  let keys ← c.vault.load
  if keys.contains name then
    let agreed ←
      if confirmed then pure true else Removal.confirm name (keys.isDefault name)
    if agreed then c.removeStored name (keys.isDefault name)
    else return Removal.cancelled name
  else .fail (.keyNotFound name.value)

/-- Makes a key the default. -/
def use (c : Context) (raw : String) : Action World Abort Report := do
  let name ← .check (KeyName.read raw)
  c.vault.setDefault name
  return .notice (.object [("default", .string name.value)])
    ("Default key set to '" ++ name.value ++ "'")

end Context
end Keyring
