import Keyring.File.Fault

/-!
# File systems

What the key store and the marker ask of the place where they are kept.  A file system is a state
with five operations; writing replaces a whole file, and removing a missing file is no fault.  Which
calls fail may change as time goes by.
-/

namespace Keyring

/-- A state that holds files. -/
class FileSystem (σ : Type) where
  /-- Whether something exists under a path. -/
  present : String → σ → Bool
  /-- The text of a file. -/
  read : String → σ → Except FileFault String
  /-- Replaces the text of a file. -/
  write : String → String → σ → Except FileFault Unit × σ
  /-- Deletes a file. -/
  remove : String → σ → Except FileFault Unit × σ
  /-- Sets the permission bits of a file. -/
  setMode : String → Nat → σ → Except FileFault Unit × σ
  /-- Lets some time go by, in which no file changes. -/
  elapse : σ → σ

/-- The permission bits of a file that only its owner may use. -/
def privateMode : Nat := 0o600

end Keyring
