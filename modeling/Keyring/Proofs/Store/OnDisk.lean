import Keyring.Proofs.File.Permission
import Keyring.Proofs.Store.Independence
import Keyring.Proofs.Store.InMemory

/-!
# The key store and the marker on disk

Where a world keeps its files on disk, the key store and the marker do to it what they do to that disk
alone, and nothing else in the world changes.  What can be seen under a path can be said for files in memory
and on disk alike: `World.fileSight`.
-/

namespace Keyring

section Marking

variable {d : Disk} {v : Vault} {marker : Marker} {seen : Option ByteArray}

/-- What a marker names is decided by what can be seen under its path. -/
theorem Marker.get?_of_sight
    {d' : Disk}
    (h : d'.sight marker.path = d.sight marker.path) :
    marker.get? d' = marker.get? d := by
  rw [get?_eq, get?_eq, h]

/-- Nothing can be seen of a marker that has been deleted. -/
theorem Marker.sight_clear
    {name : KeyName}
    (h : marker.get? d = some name) :
    (marker.clear d).2.sight marker.path = none := by
  unfold get? at h
  split at h
  · next hpresent =>
      split at h
      · next text hread =>
          obtain ⟨place, content, mode, hlook⟩ := Disk.look_of_read hread
          have hunlink : d.unlink marker.path = .ok (d.erase place) := by
            simp only [Disk.unlink, hlook]
          have hremove : Disk.removeFile marker.path d = (.ok (), d.erase place) := by
            simp only [Disk.removeFile, Disk.discard, hunlink]
          rw [clear, if_pos hpresent]
          change (Disk.removeFile marker.path d).2.sight marker.path = none
          rw [hremove]
          exact Disk.sight_of_unlink hunlink
      · cases h
  · cases h

/-- Under the path of a marker the same can be seen when a key store that exists has been saved beside it. -/
theorem Marker.sight_of_save
    (hseen : d.sight v.path = some seen)
    (hapart : Disk.placeOf marker.path ≠ Disk.placeOf v.path)
    (hbeside : Disk.placeOf marker.path ≠ Disk.placeOf (Path.temporary v.path))
    (c : Collection) :
    (v.save c d).2.sight marker.path = d.sight marker.path := by
  have hchanged := (v.changed_save c d).of_sight hseen
  exact Disk.sight_of_changed_files hchanged (by simp [hapart, hbeside])

end Marking

namespace World

variable {w : World} {m : Memory}

theorem onFiles_of_disk
    (h : w.memory = none)
    (inMemory : Memory → Except FileFault Unit × Memory)
    (onDisk : Disk → Except FileFault Unit × Disk) :
    w.onFiles inMemory onDisk =
      ((onDisk w.machine.disk).1, w.withDisk (onDisk w.machine.disk).2) := by
  rw [onFiles, h]

/-- What can be seen under a path: nothing, the bytes of a file, or a directory. -/
def fileSight (w : World) (path : String) : Option (Option ByteArray) :=
  match w.memory with
  | some m => (m.text path).map fun text => some text.toUTF8
  | none => w.machine.disk.sight path

theorem fileSight_of_memory
    (path : String)
    (h : w.memory = some m) :
    w.fileSight path = (m.text path).map fun text => some text.toUTF8 := by
  rw [fileSight, h]

theorem fileSight_of_disk
    (path : String)
    (h : w.memory = none) :
    w.fileSight path = w.machine.disk.sight path := by
  rw [fileSight, h]

/-- The same can be seen where the files are the same. -/
theorem SameFiles.fileSight
    {w' : World}
    (h : SameFiles w w')
    (path : String) :
    w'.fileSight path = w.fileSight path := by
  simp only [World.fileSight, h.1, h.2]

end World

/-- A key store that holds a key can be seen. -/
theorem Disk.exists_sight_of_contents
    {d : Disk}
    {v : Vault}
    {c : Collection}
    (h : v.contents d = .ok c)
    (hkeys : c.keys ≠ []) :
    ∃ seen, d.sight v.path = some seen := by
  rw [← Option.isSome_iff_exists, ← Disk.present_eq_isSome_sight]
  by_contra habsent
  rw [Vault.contents] at h
  cases (if_neg habsent).symm.trans h
  exact hkeys rfl

section OnDisk

variable {w : World}

theorem Vault.contents_of_disk
    (v : Vault)
    (h : w.memory = none) :
    v.contents w = v.contents w.machine.disk := by
  simp only [contents, World.present_of_disk v.path h, World.read_of_disk v.path h]

theorem Vault.writePrivate_of_disk
    (v : Vault)
    (text : String)
    (h : w.memory = none) :
    v.writePrivate text w =
      ((v.writePrivate text w.machine.disk).1, w.withDisk (v.writePrivate text w.machine.disk).2) := by
  have hwrite : FileSystem.write v.path text w = _ := World.onFiles_of_disk h _ _
  unfold writePrivate
  rw [hwrite]
  cases hresult : FileSystem.write v.path text w.machine.disk with
  | mk result d =>
      cases result with
      | error fault => rfl
      | ok u => exact World.onFiles_of_disk (w := w.withDisk d) h _ _

/-- A save in a world is a save on its disk. -/
theorem Vault.save_of_disk
    (v : Vault)
    (c : Collection)
    (h : w.memory = none) :
    v.save c w = ((v.save c w.machine.disk).1, w.withDisk (v.save c w.machine.disk).2) := by
  unfold save
  split
  · rfl
  · next text _ =>
      rw [v.writePrivate_of_disk text h]
      cases hresult : v.writePrivate text w.machine.disk with
      | mk result d =>
          cases result with
          | error fault => rfl
          | ok u => rfl

theorem Marker.get?_of_disk
    (marker : Marker)
    (h : w.memory = none) :
    marker.get? w = marker.get? w.machine.disk := by
  simp only [get?, World.present_of_disk marker.path h, World.read_of_disk marker.path h]

theorem Marker.clear_of_disk
    (marker : Marker)
    (h : w.memory = none) :
    marker.clear w = ((marker.clear w.machine.disk).1, w.withDisk (marker.clear w.machine.disk).2) := by
  unfold clear
  rw [World.present_of_disk marker.path h]
  split
  · exact World.onFiles_of_disk h _ _
  · rfl

end OnDisk

end Keyring
