import Keyring.Action
import Keyring.File.System
import Keyring.Store.Record

/-!
# The key store

The collection of keys lives in one file.  Every operation loads it, works on the collection, and
saves all of it; a store that does not exist is empty, and one that cannot be read or understood is
never taken for an empty one.  A save writes the file and then makes it private.
-/

namespace Keyring

/-- Where the key store is kept. -/
structure Vault where
  path : String
deriving DecidableEq, Repr

namespace Vault

variable {σ : Type} [FileSystem σ]

/-- The details of failures of the key store. -/
def details (v : Vault) : Json :=
  .object [("path", .string v.path)]

/-- The failure of reading the file. -/
def unreadable (v : Vault) (fault : FileFault) : Failure :=
  (Failure.internal ("failed to read key store: " ++ fault.message)).withDetails v.details

/-- The failure of a file that is no record. -/
def notRecord (v : Vault) (text : String) (fault : Json.Fault) : Failure :=
  (Failure.corruptStore
    ("key store is not a valid record: " ++ fault.message text)).withDetails v.details

/-- The failure of a record that is no collection. -/
def invalid (v : Vault) (fault : Record.Fault) : Failure :=
  (Failure.corruptStore
    ("key store contains invalid data: " ++ fault.message)).withDetails v.details

/-- The failure of writing the file. -/
def unwritable (v : Vault) (fault : FileFault) : Failure :=
  (Failure.internal ("failed to write key store: " ++ fault.message)).withDetails v.details

/-- The collection that a text of the key store holds. -/
def ofText (v : Vault) (text : String) : Except Failure Collection :=
  match Record.ofText text with
  | .error fault => .error (v.notRecord text fault)
  | .ok record => record.collection.mapError v.invalid

/-- The text of the key store for a collection; there is none when a creation time has no text. -/
def toText? (c : Collection) : Option String :=
  (Record.ofCollection? c).map Record.text

/-- The stored collection. -/
def contents (v : Vault) (s : σ) : Except Failure Collection :=
  if FileSystem.present v.path s then
    match FileSystem.read v.path s with
    | .error fault => .error (v.unreadable fault)
    | .ok text => v.ofText text
  else .ok .empty

/-- Loads the stored collection. -/
def load (v : Vault) : Action σ Abort Collection := fun s =>
  ((v.contents s).mapError .failed, s)

/-- Writes the file and makes it private. -/
def writePrivate (v : Vault) (text : String) (s : σ) : Except FileFault Unit × σ :=
  match FileSystem.write v.path text s with
  | (.error fault, s) => (.error fault, s)
  | (.ok (), s) => FileSystem.setMode v.path privateMode s

/-- Saves a collection. -/
def save (v : Vault) (c : Collection) : Action σ Abort Unit := fun s =>
  match toText? c with
  | none => (.error .crashed, s)
  | some text =>
      match v.writePrivate text s with
      | (.error fault, s) => (.error (.failed (v.unwritable fault)), s)
      | (.ok (), s) => (.ok (), s)

/-- The stored key of a name. -/
def find (v : Vault) (name : KeyName) : Action σ Abort (Option Profile) := do
  let c ← v.load
  return c.find? name

/-- The stored key of the default. -/
def getDefault (v : Vault) : Action σ Abort (Option Profile) := do
  let c ← v.load
  return c.default?

/-- Adds a key. -/
def add (v : Vault) (key : Profile) : Action σ Abort Unit := do
  let c ← v.load
  v.save (c.add key)

/-- The collection with a key put after all others; it stays the default if it was. -/
def updated (c : Collection) (key : Profile) : Option Collection :=
  let added := (c.remove key.name).add key
  if c.isDefault key.name then added.setDefault? key.name else some added

/-- Replaces a key by one of the same name. -/
def update (v : Vault) (key : Profile) : Action σ Abort Unit := do
  let c ← v.load
  match updated c key with
  | some c => v.save c
  | none => .fail (.keyNotFound key.name.value)

/-- Removes a key.  The file is saved even when there is no such key. -/
def remove (v : Vault) (name : KeyName) : Action σ Abort Bool := do
  let c ← v.load
  v.save (c.remove name)
  return c.contains name

/-- Makes a key the default. -/
def setDefault (v : Vault) (name : KeyName) : Action σ Abort Unit := do
  let c ← v.load
  match c.setDefault? name with
  | some c => v.save c
  | none => .fail (.keyNotFound name.value)

end Vault
end Keyring
