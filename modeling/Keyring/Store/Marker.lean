import Keyring.File.System
import Keyring.Key.Name

/-!
# The last-used marker

A small file of its own names the key that was chosen last.  It only serves as a hint: a marker that
is missing, unreadable or no name counts as none.
-/

namespace Keyring

/-- Where the marker is kept. -/
structure Marker where
  path : String
deriving DecidableEq, Repr

namespace Marker

variable {σ : Type} [FileSystem σ]

/-- The name that a text of the marker holds. -/
def ofText? (text : String) : Option KeyName :=
  (KeyName.ofText text).toOption

/-- The name in the marker. -/
def get? (m : Marker) (s : σ) : Option KeyName :=
  if FileSystem.present m.path s then
    match FileSystem.read m.path s with
    | .ok text => ofText? text
    | .error _ => none
  else none

/-- Writes a name into the marker. -/
def set (m : Marker) (name : KeyName) (s : σ) : Except FileFault Unit × σ :=
  FileSystem.write m.path name.value s

/-- Deletes the marker if there is one. -/
def clear (m : Marker) (s : σ) : Except FileFault Unit × σ :=
  if FileSystem.present m.path s then FileSystem.remove m.path s else (.ok (), s)

end Marker
end Keyring
