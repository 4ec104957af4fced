import Keyring.Json.Printer

/-!
# Failures of commands

A command that cannot do its work fails with a kind, a message for people and sometimes details for
programs.  The kind fixes the code in machine-readable output and the exit status; the constructors
of this module fix the wording of the failures that carry no text of their own.
-/

namespace Keyring

/-- What went wrong, in the terms that scripts can tell apart. -/
inductive FailureKind
  | validation
  | keyNotFound
  | corruptStore
  | selectionCancelled
  | invalidSelection
  | noKeys
  | noDefault
  | launch
  | internal
deriving DecidableEq, Repr

namespace FailureKind

/-- The code that stands in machine-readable output. -/
def code : FailureKind → String
  | .validation => "VALIDATION_ERROR"
  | .keyNotFound => "KEY_NOT_FOUND"
  | .corruptStore => "CORRUPT_STORE"
  | .selectionCancelled => "SELECTION_CANCELLED"
  | .invalidSelection => "INVALID_SELECTION"
  | .noKeys => "NO_KEYS"
  | .noDefault => "NO_DEFAULT"
  | .launch => "LAUNCH_ERROR"
  | .internal => "INTERNAL_ERROR"

/-- The exit status of the program. -/
def exitStatus : FailureKind → Nat
  | .internal => 1
  | .keyNotFound => 2
  | .validation => 3
  | .launch => 4
  | .corruptStore => 5
  | .selectionCancelled => 6
  | .invalidSelection => 7
  | .noKeys => 8
  | .noDefault => 9

end FailureKind

/-- A failure. -/
structure Failure where
  kind : FailureKind
  message : String
  details : Option Json := none
deriving Repr

namespace Failure

/-- The failure with other details. -/
def withDetails (f : Failure) (details : Json) : Failure :=
  ⟨f.kind, f.message, some details⟩

/-- An input that is refused. -/
def validation (message : String) : Failure :=
  ⟨.validation, message, none⟩

/-- A name under which no key is stored. -/
def keyNotFound (name : String) : Failure :=
  ⟨.keyNotFound, "API key not found: " ++ name, some (.object [("name", .string name)])⟩

/-- A key store that cannot be understood. -/
def corruptStore (message : String) : Failure :=
  ⟨.corruptStore, message, none⟩

/-- A selection that the user has called off. -/
def selectionCancelled : Failure :=
  ⟨.selectionCancelled, "selection cancelled", none⟩

/-- A selection that names no key. -/
def invalidSelection (message : String) : Failure :=
  ⟨.invalidSelection, message, none⟩

/-- A selection among no keys. -/
def noKeys : Failure :=
  ⟨.noKeys, "no API keys available; run 'keyswitch add <name>' first", none⟩

/-- A default that is asked for and not set. -/
def noDefault : Failure :=
  ⟨.noDefault, "no default key set; run 'keyswitch use <name>' first", none⟩

/-- A program that could not be started or did not succeed. -/
def launch (message : String) : Failure :=
  ⟨.launch, message, none⟩

/-- Trouble with the surroundings. -/
def internal (message : String) : Failure :=
  ⟨.internal, message, none⟩

/-- The members of the error object in machine-readable output. -/
def members (f : Failure) : List (String × Json) :=
  [("code", .string f.kind.code), ("message", .string f.message)] ++
    (f.details.map fun d => ("details", d)).toList

/-- The failure as a value. -/
def json (f : Failure) : Json :=
  .object [("ok", .bool false), ("error", .object f.members)]

end Failure
end Keyring
