import Keyring.Proofs.File.Disk

/-!
# Permission bits that can be seen

In memory and on disk the permission bits of a file can be looked up.  A file that can be read and has
been made private carries the bits of a private file.
-/

namespace Keyring

/-- A file system that shows the permission bits of its files. -/
class PermissionView (σ : Type) [FileSystem σ] where
  /-- The permission bits of what exists under a path. -/
  mode? : String → σ → Option Nat
  /-- A file that has been made private has the bits of a private file. -/
  mode?_setMode :
    ∀ {path text : String} {s s' : σ},
      FileSystem.read path s = .ok text → FileSystem.setMode path privateMode s = (.ok (), s') →
        mode? path s' = some privateMode

instance : PermissionView Memory where
  mode? path m := m.mode path
  mode?_setMode := by
    intro path text m m' _ hmode
    obtain ⟨-, rfl⟩ := Memory.setMode_eq_ok_iff.1 hmode
    simp

namespace Disk

/-- A text that has been read stands in a file. -/
theorem look_of_read
    {path text : String}
    {d : Disk}
    (h : FileSystem.read path d = .ok text) :
    ∃ place content mode, d.look path = .ok (place, .file content mode) := by
  simp only [FileSystem.read, readText, readBytes] at h
  cases hlook : d.look path with
  | error e =>
      rw [hlook] at h
      cases h
  | ok found =>
      obtain ⟨place, node⟩ := found
      cases node with
      | file content mode => exact ⟨place, content, mode, rfl⟩
      | directory mode =>
          rw [hlook] at h
          cases h

/-- The permission bits of a file are those that have been set. -/
theorem mode?_of_setMode
    {path : String}
    {place : Place}
    {content : ByteArray}
    {old mode : Nat}
    {d d' : Disk}
    (hlook : d.look path = .ok (place, .file content old))
    (h : d.setMode path mode = .ok d') :
    d'.mode? path = some (mode % modeCount) := by
  simp only [setMode, hlook] at h
  cases h
  obtain ⟨-, hnode, -⟩ := look_eq_ok_iff.1 hlook
  have hfile := not_isDirectory_of_file hnode
  have hput := at?_put_self (d := d) (.file content (mode % modeCount)) (ne_nil_of_not_isDirectory hfile)
  have hlook' := look_of_keepsDirectories (keepsDirectories_put _ hfile) hlook hput rfl
  simp only [mode?, Node.withMode, hlook', Node.mode]

instance : PermissionView Disk where
  mode? path d := d.mode? path
  mode?_setMode := by
    intro path text d d' hread hmode
    obtain ⟨place, content, old, hlook⟩ := look_of_read hread
    exact mode?_of_setMode hlook (setMode_of_changeMode hmode)

end Disk
end Keyring
