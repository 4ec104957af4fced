import Keyring.Proofs.Key.Reading
import Keyring.Proofs.Store.Saving
import Keyring.Proofs.World
import Keyring.Store.Marker

/-!
# The key store and the marker in memory

Where a world keeps its files in memory, the key store and the marker do to it what they do to that memory
alone, and nothing else in the world changes.
-/

namespace Keyring

namespace World

variable {w : World} {m : Memory}

theorem onFiles_of_memory
    (h : w.memory = some m)
    (inMemory : Memory → Except FileFault Unit × Memory)
    (onDisk : Disk → Except FileFault Unit × Disk) :
    w.onFiles inMemory onDisk = ((inMemory m).1, { w with memory := some (inMemory m).2 }) := by
  rw [onFiles, h]

end World

namespace Memory

/-- The memory after a text has been stored and made private. -/
def stored (m : Memory) (path text : String) : Memory :=
  { m with
    text := replace m.text path (some text)
    mode := replace m.mode path (some privateMode)
    writes := m.writes + 1
    modeChanges := m.modeChanges + 1 }

/-- The memory after a text has been stored that could not be made private. -/
def halfStored (m : Memory) (path text : String) : Memory :=
  { m with text := replace m.text path (some text), writes := m.writes + 1 }

/-- A text is stored unless writing fails, and made private unless setting permissions fails. -/
theorem writePrivate_eq_ite
    (v : Vault)
    (text : String)
    (m : Memory) :
    v.writePrivate text m =
      if m.fails .write v.path then (.error (.scripted .write), m)
      else if m.fails .setMode v.path then
        (.error (.scripted .setMode), m.halfStored v.path text)
      else (.ok (), m.stored v.path text) := by
  cases hwrite : m.fails .write v.path with
  | true =>
      have hfailed : FileSystem.write v.path text m = (.error (.scripted .write), m) :=
        write_eq_error_iff.2 ⟨hwrite, rfl, rfl⟩
      rw [Vault.writePrivate, hfailed, if_pos rfl]
  | false =>
      have hwritten : FileSystem.write v.path text m = (.ok (), m.halfStored v.path text) :=
        write_eq_ok_iff.2 ⟨hwrite, rfl⟩
      have hpresent : ((m.halfStored v.path text).text v.path).isSome = true := by simp [halfStored]
      rw [Vault.writePrivate, hwritten, if_neg Bool.false_ne_true]
      simp only
      cases hmode : m.fails .setMode v.path with
      | true =>
          rw [if_pos rfl]
          exact setMode_eq_error_iff.2 ⟨.inl ⟨hmode, rfl⟩, rfl⟩
      | false =>
          rw [if_neg Bool.false_ne_true]
          exact setMode_eq_ok_iff.2 ⟨⟨hmode, hpresent⟩, rfl⟩

theorem save_eq
    (v : Vault)
    {c : Collection}
    {text : String}
    {m : Memory}
    (h : ∀ call, m.fails call v.path = false)
    (htext : Vault.toText? c = some text) :
    v.save c m = (.ok (), m.stored v.path text) := by
  simp only [Vault.save, htext, writePrivate_eq_ite, h, Bool.false_eq_true, if_false]

/-- Whether two memories agree on one file and on the calls that fail at each moment. -/
structure SameAt (path : Path.Key) (m m' : Memory) : Prop where
  text : m'.text path = m.text path
  mode : m'.mode path = m.mode path
  failing : m'.failing = m.failing

namespace SameAt

variable {path : Path.Key} {m m' m'' : Memory}

theorem refl
    (path : Path.Key)
    (m : Memory) :
    SameAt path m m :=
  ⟨rfl, rfl, rfl⟩

end SameAt

theorem replace_of_ne
    {α : Type}
    {path other : Path.Key}
    (f : Path.Key → α)
    (value : α)
    (h : path ≠ other) :
    replace f other value path = f path := by
  rw [replace, if_neg h]

/-- A text that is stored leaves every other file. -/
theorem sameAt_stored
    {path : Path.Key}
    {other : String}
    (m : Memory)
    (text : String)
    (h : path ≠ other) :
    SameAt path m (m.stored other text) :=
  ⟨replace_of_ne m.text _ h, replace_of_ne m.mode _ h, rfl⟩

/-- A file that is put or deleted leaves every other file. -/
theorem sameAt_place
    {path : Path.Key}
    {other : String}
    (m : Memory)
    (text : Option String)
    (h : path ≠ other) :
    SameAt path m (m.place other text) :=
  ⟨replace_of_ne m.text _ h, replace_of_ne m.mode _ h, rfl⟩

/-- Saving the key store leaves every other file, also when it fails half-way. -/
theorem sameAt_save
    {path : Path.Key}
    {v : Vault}
    (c : Collection)
    (m : Memory)
    (h : path ≠ v.path) :
    SameAt path m (v.save c m).2 := by
  unfold Vault.save
  split
  · exact .refl path m
  · next text _ =>
      rw [writePrivate_eq_ite]
      cases m.fails .write v.path with
      | true => exact .refl path m
      | false =>
          cases m.fails .setMode v.path with
          | true => exact ⟨replace_of_ne m.text _ h, rfl, rfl⟩
          | false => exact m.sameAt_stored text h

section Marker

variable {path : Path.Key} {marker : Marker}

end Marker
end Memory

namespace Vault

variable {w : World} {m : Memory}

theorem contents_of_memory
    (v : Vault)
    (h : w.memory = some m) :
    v.contents w = v.contents m := by
  simp only [contents, World.present_of_memory v.path h, World.read_of_memory v.path h]

theorem writePrivate_of_memory
    (v : Vault)
    (text : String)
    (h : w.memory = some m) :
    v.writePrivate text w =
      ((v.writePrivate text m).1, { w with memory := some (v.writePrivate text m).2 }) := by
  have hwrite : FileSystem.write v.path text w = _ := World.onFiles_of_memory h _ _
  unfold writePrivate
  rw [hwrite]
  cases hresult : FileSystem.write v.path text m with
  | mk result m₁ =>
      cases result with
      | error fault => rfl
      | ok u => exact World.onFiles_of_memory rfl _ _

/-- A save in a world is a save in its memory. -/
theorem save_of_memory
    (v : Vault)
    (c : Collection)
    (h : w.memory = some m) :
    v.save c w = ((v.save c m).1, { w with memory := some (v.save c m).2 }) := by
  unfold save
  split
  · rw [← h]
  · next text _ =>
      rw [v.writePrivate_of_memory text h]
      cases hresult : v.writePrivate text m with
      | mk result m₁ =>
          cases result with
          | error fault => rfl
          | ok u => rfl

end Vault

namespace Marker

variable {w : World} {m : Memory}

theorem get?_of_memory
    (marker : Marker)
    (h : w.memory = some m) :
    marker.get? w = marker.get? m := by
  simp only [get?, World.present_of_memory marker.path h, World.read_of_memory marker.path h]

theorem clear_of_memory
    (marker : Marker)
    (h : w.memory = some m) :
    marker.clear w = ((marker.clear m).1, { w with memory := some (marker.clear m).2 }) := by
  unfold clear
  rw [World.present_of_memory marker.path h]
  split
  · exact World.onFiles_of_memory h _ _
  · rw [← h]

end Marker

section Congruence

variable {v : Vault} {marker : Marker} {m m' : Memory}

theorem Vault.contents_congr
    (htext : m.text v.path = m'.text v.path)
    (hfails : m.fails .read v.path = m'.fails .read v.path) :
    v.contents m = v.contents m' := by
  simp only [contents, FileSystem.present, FileSystem.read, Memory.read, htext, hfails]

theorem Marker.get?_congr
    (htext : m.text marker.path = m'.text marker.path)
    (hfails : m.fails .read marker.path = m'.fails .read marker.path) :
    marker.get? m = marker.get? m' := by
  simp only [get?, FileSystem.present, FileSystem.read, Memory.read, htext, hfails]

/-- A marker that names a key is deleted unless deleting fails. -/
theorem Marker.clear_of_get?
    {name : KeyName}
    (h : marker.get? m = some name) :
    (marker.clear m).2 = if m.fails .remove marker.path then m else m.place marker.path none := by
  have hpresent : FileSystem.present marker.path m = true := by
    unfold get? at h
    split at h
    · next hpresent => exact hpresent
    · cases h
  rw [clear, if_pos hpresent]
  change (m.remove marker.path).2 = _
  unfold Memory.remove
  split
  · rfl
  · rfl

end Congruence

end Keyring
