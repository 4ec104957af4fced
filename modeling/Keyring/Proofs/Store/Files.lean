import Keyring.Proofs.File.Beside
import Keyring.Proofs.Store.OnDisk

/-!
# What becomes of the files of a world

The key store and the marker are files in memory or on disk.  For each call on them there is one statement on
the file that is written or deleted and one on any other file: it is kept where the two paths have nothing to
do with each other (`World.Apart`), and kept or lost where they lead to different files (`World.Distinct`).
What the key store holds and the marker names is decided by what can be seen under their paths, wherever
reading does not fail.
-/

namespace Keyring

open Keyring.Disk (placeOf)
open LawfulFileSystem (ReadableAt)

/-- Bytes that are read as a text are those of the text. -/
theorem Text.eq_toUTF8_of_decode?
    {bytes : ByteArray}
    {text : String}
    (h : decode? bytes = some text) :
    bytes = text.toUTF8 := by
  unfold decode? String.fromUTF8? at h
  split at h
  · cases h
    rfl
  · cases h

namespace Memory

/-- Writing leaves every other file. -/
theorem sameAt_write
    {path : Path.Key}
    {other : String}
    (text : String)
    (m : Memory)
    (h : path ≠ other) :
    SameAt path m (m.write other text).2 := by
  unfold write
  split
  · exact .refl path m
  · exact ⟨replace_of_ne m.text _ h, rfl, rfl⟩

/-- Setting permissions leaves every other file. -/
theorem sameAt_setMode
    {path : Path.Key}
    {other : String}
    (mode : Nat)
    (m : Memory)
    (h : path ≠ other) :
    SameAt path m (m.setMode other mode).2 := by
  unfold setMode
  split
  · exact .refl path m
  · split
    · exact .refl path m
    · exact ⟨rfl, replace_of_ne m.mode _ h, rfl⟩

/-- Deleting does not change which calls fail. -/
@[simp] theorem failing_remove
    (path : String)
    (m : Memory) :
    (m.remove path).2.failing = m.failing := by
  unfold remove
  split
  · rfl
  · rfl

/-- Deleting leaves every other file. -/
theorem sameAt_remove
    {path : Path.Key}
    {other : String}
    (m : Memory)
    (h : path ≠ other) :
    SameAt path m (m.remove other).2 := by
  unfold remove
  split
  · exact .refl path m
  · exact m.sameAt_place none h

end Memory

namespace World

variable {w w' w'' : World} {path other text : String} {result : Except FileFault Unit}

/-- The file at the place that a path leads to; a directory there is none. -/
def file? (w : World) (path : String) : Option StoredFile :=
  match w.memory with
  | some m => (m.text path).map fun text => ⟨text.toUTF8, m.mode path⟩
  | none => w.machine.disk.file? path

/-- Whether two paths lead to different files. -/
def Distinct (w : World) (path other : String) : Prop :=
  if w.memory.isSome then Path.key path ≠ Path.key other else placeOf path ≠ placeOf other

instance (w : World) (path other : String) : Decidable (w.Distinct path other) :=
  inferInstanceAs (Decidable
    (if w.memory.isSome then Path.key path ≠ Path.key other else placeOf path ≠ placeOf other))

/-- Whether a path leads to a file that has nothing to do with writing under another path: neither to the
file that is written nor, on disk, to the temporary one. -/
structure Apart (w : World) (path other : String) : Prop where
  distinct : w.Distinct path other
  beside : w.memory = none → placeOf path ≠ placeOf (Path.temporary other)

/-- Whether no call on files in memory has been told to fail. -/
def Trusted (w : World) : Prop :=
  ∀ m ∈ w.memory, ∀ moment call path, m.failing moment call path = false

/-- Whether programs on the machine leave what a path leads to as it is, if the files are on disk. -/
def Spares (w : World) (path : String) : Prop :=
  w.memory = none → w.machine.programs.Spare path

/-- Whether the file at the place that a path leads to is the same in two worlds, and can still be seen if it
could be. -/
structure KeepsFile (path : String) (w w' : World) : Prop where
  file : w'.file? path = w.file? path
  shown : ∀ content, w.fileSight path = some (some content) → w'.fileSight path = some (some content)

section Looking

variable {m : Memory}

theorem file?_of_memory
    (path : String)
    (h : w.memory = some m) :
    w.file? path = (m.text path).map fun text => ⟨text.toUTF8, m.mode path⟩ := by
  rw [file?, h]

theorem file?_of_disk
    (path : String)
    (h : w.memory = none) :
    w.file? path = w.machine.disk.file? path := by
  rw [file?, h]

theorem file?_withDisk
    (path : String)
    (d : Disk)
    (h : w.memory = none) :
    (w.withDisk d).file? path = d.file? path :=
  file?_of_disk (w := w.withDisk d) path h

/-- A file that can be seen is there. -/
theorem exists_file?_of_fileSight
    {content : ByteArray}
    (h : w.fileSight path = some (some content)) :
    ∃ mode, w.file? path = some ⟨content, mode⟩ := by
  cases hmemory : w.memory with
  | some m =>
      rw [fileSight_of_memory path hmemory, Option.map_eq_some_iff] at h
      obtain ⟨text, htext, hcontent⟩ := h
      cases hcontent
      exact ⟨m.mode path, by rw [file?_of_memory path hmemory, htext, Option.map_some]⟩
  | none =>
      rw [fileSight_of_disk path hmemory] at h
      obtain ⟨mode, hlook⟩ := Disk.exists_look_of_sight h
      exact ⟨some mode, by rw [file?_of_disk path hmemory, Disk.file?_of_look hlook]⟩

theorem present_eq_isSome_fileSight
    (w : World)
    (path : String) :
    FileSystem.present path w = (w.fileSight path).isSome := by
  cases hmemory : w.memory with
  | some m =>
      rw [present_of_memory path hmemory, fileSight_of_memory path hmemory, Option.isSome_map]
      rfl
  | none =>
      rw [present_of_disk path hmemory, fileSight_of_disk path hmemory]
      exact Disk.present_eq_isSome_sight _ path

/-- A text that can be seen is what is read, unless reading fails. -/
theorem read_of_fileSight
    (h : w.fileSight path = some (some text.toUTF8)) :
    FileSystem.read path w = .ok text ∨
      ¬ ReadableAt path w ∧ ∃ fault, FileSystem.read path w = .error fault := by
  cases hmemory : w.memory with
  | some m =>
      rw [fileSight_of_memory path hmemory, Option.map_eq_some_iff] at h
      obtain ⟨text', htext, hcontent⟩ := h
      cases String.toByteArray_inj.1 (Option.some.inj hcontent)
      rw [read_of_memory path hmemory]
      cases hfails : m.fails .read path with
      | false => exact .inl (Memory.read_of_text hfails htext)
      | true =>
          refine .inr ⟨fun hreadable => ?_, .scripted .read, ?_⟩
          · rw [show m.fails .read path = false from hreadable m hmemory] at hfails
            cases hfails
          · change m.read path = _
            rw [Memory.read, hfails, if_pos rfl]
  | none =>
      rw [fileSight_of_disk path hmemory] at h
      rw [read_of_disk path hmemory]
      left
      simp only [FileSystem.read, Disk.readText, Disk.readBytes_of_sight h, Option.elim_some,
        Text.decode?_toUTF8]
      rfl

/-- A text that has been read can be seen. -/
theorem fileSight_of_read
    (h : FileSystem.read path w = .ok text) :
    w.fileSight path = some (some text.toUTF8) := by
  cases hmemory : w.memory with
  | some m =>
      rw [read_of_memory path hmemory] at h
      change m.read path = _ at h
      unfold Memory.read at h
      split at h
      · cases h
      · split at h
        · next text' htext =>
            cases h
            rw [fileSight_of_memory path hmemory, htext, Option.map_some]
        · cases h
  | none =>
      rw [read_of_disk path hmemory] at h
      rw [fileSight_of_disk path hmemory]
      obtain ⟨place, content, mode, hlook⟩ := Disk.look_of_read h
      simp only [FileSystem.read, Disk.readText, Disk.readBytes, hlook] at h
      cases hdecode : Text.decode? content with
      | none =>
          simp only [hdecode] at h
          cases h
      | some text' =>
          simp only [hdecode] at h
          cases h
          rw [Disk.sight_of_look hlook, Node.content?, Text.eq_toUTF8_of_decode? hdecode]

end Looking

/-- As long as nothing is written, the same can be seen. -/
theorem Rests.fileSight
    (h : Rests w w')
    (path : String) :
    w'.fileSight path = w.fileSight path := by
  cases hmemory : w.memory with
  | some m =>
      obtain ⟨moment, hmemory'⟩ := h.memory_of_some hmemory
      rw [fileSight_of_memory path hmemory, fileSight_of_memory path hmemory']
  | none =>
      rw [fileSight_of_disk path hmemory, fileSight_of_disk path (h.memory_of_none hmemory), h.machine]

namespace KeepsFile

theorem refl
    (path : String)
    (w : World) :
    KeepsFile path w w :=
  ⟨rfl, fun _ h => h⟩

theorem trans
    (h : KeepsFile path w w')
    (h' : KeepsFile path w' w'') :
    KeepsFile path w w'' :=
  ⟨h'.file.trans h.file, fun content hseen => h'.shown content (h.shown content hseen)⟩

theorem of_sameAt
    {m m' : Memory}
    (hmemory : w.memory = some m)
    (hmemory' : w'.memory = some m')
    (h : m.SameAt path m') :
    KeepsFile path w w' where
  file := by rw [file?_of_memory path hmemory, file?_of_memory path hmemory', h.text, h.mode]
  shown content hseen := by
    rw [fileSight_of_memory path hmemory', h.text, ← fileSight_of_memory path hmemory, hseen]

theorem of_disk
    (hdisk : w.memory = none)
    (hdisk' : w'.memory = none)
    (h : Disk.KeepsFile path w.machine.disk w'.machine.disk) :
    KeepsFile path w w' where
  file := by rw [file?_of_disk path hdisk, file?_of_disk path hdisk', h.file]
  shown content hseen := by
    rw [fileSight_of_disk path hdisk] at hseen
    rw [fileSight_of_disk path hdisk', h.shown content hseen]

/-- As long as nothing is written, files are kept. -/
theorem of_rests
    (h : Rests w w') :
    KeepsFile path w w' := by
  cases hmemory : w.memory with
  | some m =>
      obtain ⟨moment, hmemory'⟩ := h.memory_of_some hmemory
      exact of_sameAt hmemory hmemory' ⟨rfl, rfl, rfl⟩
  | none =>
      refine of_disk hmemory (h.memory_of_none hmemory) ?_
      rw [h.machine]
      exact .refl path _

/-- Programs that spare a file keep it. -/
theorem of_worked
    (hspare : w.Spares path)
    (hmemory : w'.memory = w.memory)
    (hmachine : w.machine.Worked w'.machine) :
    KeepsFile path w w' := by
  cases hfiles : w.memory with
  | some m => exact of_sameAt hfiles (hmemory.trans hfiles) (.refl _ m)
  | none => exact of_disk hfiles (hmemory.trans hfiles) (hmachine.sameAt (hspare hfiles)).keepsFile

end KeepsFile

/-- Whether two worlds keep their files in the same way, with the same calls failing, and have the same
programs. -/
structure SameSetting (w w' : World) : Prop where
  failing : w'.memory.map Memory.failing = w.memory.map Memory.failing
  programs : w'.machine.programs = w.machine.programs

namespace SameSetting

theorem refl (w : World) :
    SameSetting w w :=
  ⟨rfl, rfl⟩

theorem trans
    (h : SameSetting w w')
    (h' : SameSetting w' w'') :
    SameSetting w w'' :=
  ⟨h'.failing.trans h.failing, h'.programs.trans h.programs⟩

theorem of_rests (h : Rests w w') :
    SameSetting w w' := by
  obtain ⟨moment, hmemory⟩ := h.memory
  refine ⟨?_, by rw [h.machine]⟩
  rw [hmemory, Option.map_map]
  rfl

/-- Programs that are started do not change which there are. -/
theorem of_worked
    (hmemory : w'.memory = w.memory)
    (hmachine : w.machine.Worked w'.machine) :
    SameSetting w w' :=
  ⟨by rw [hmemory], hmachine.programs⟩

theorem of_onFiles
    {inMemory : Memory → Except FileFault Unit × Memory}
    {onDisk : Disk → Except FileFault Unit × Disk}
    (hfailing : ∀ m, (inMemory m).2.failing = m.failing)
    (h : w.onFiles inMemory onDisk = (result, w')) :
    SameSetting w w' := by
  have hmemory : (w.onFiles inMemory onDisk).2.memory = _ := memory_onFiles
  rw [h] at hmemory
  refine ⟨?_, ?_⟩
  · rw [hmemory, Option.map_map]
    exact congrArg (fun f => w.memory.map f) (funext hfailing)
  · unfold onFiles at h
    split at h
    · cases h
      rfl
    · cases h
      rfl

theorem isSome_memory (h : SameSetting w w') :
    w'.memory.isSome = w.memory.isSome := by
  rw [← Option.isSome_map (f := Memory.failing), h.failing, Option.isSome_map]

theorem memory_eq_none_iff (h : SameSetting w w') :
    w'.memory = none ↔ w.memory = none := by
  rw [← Option.isNone_iff_eq_none, ← Option.isNone_iff_eq_none, ← Option.not_isSome, ← Option.not_isSome,
    h.isSome_memory]

theorem distinct
    (h : SameSetting w w')
    (hdistinct : w.Distinct path other) :
    w'.Distinct path other := by
  rwa [Distinct, h.isSome_memory]

theorem apart
    (h : SameSetting w w')
    (hapart : w.Apart path other) :
    w'.Apart path other :=
  ⟨h.distinct hapart.distinct, fun hdisk => hapart.beside (h.memory_eq_none_iff.1 hdisk)⟩

theorem spares
    (h : SameSetting w w')
    (hspares : w.Spares path) :
    w'.Spares path := by
  intro hdisk
  rw [h.programs]
  exact hspares (h.memory_eq_none_iff.1 hdisk)

theorem trusted
    (h : SameSetting w w')
    (htrusted : w.Trusted) :
    w'.Trusted := by
  intro m' hmemory'
  have hfailing := h.failing
  rw [Option.mem_def.1 hmemory', Option.map_some, eq_comm, Option.map_eq_some_iff] at hfailing
  obtain ⟨m, hmemory, hsame⟩ := hfailing
  rw [← hsame]
  exact htrusted m hmemory

end SameSetting

theorem Trusted.readable (h : w.Trusted) :
    LawfulFileSystem.Readable w :=
  fun m hmemory moment path => h m hmemory moment .read path

/-- No call fails in a memory that has not been told of any. -/
theorem trusted_fresh
    (machine : Host.Machine)
    (replies : List Reply) :
    (fresh (some .empty) machine replies).Trusted := by
  rintro m ⟨⟩
  exact fun _ _ _ => rfl

section Calls

theorem sameSetting_of_write
    (h : FileSystem.write path text w = (result, w')) :
    SameSetting w w' :=
  .of_onFiles (Memory.failing_write path text) h

theorem sameSetting_of_setMode
    {mode : Nat}
    (h : FileSystem.setMode path mode w = (result, w')) :
    SameSetting w w' :=
  .of_onFiles (Memory.failing_setMode path mode) h

theorem sameSetting_of_remove
    (h : FileSystem.remove path w = (result, w')) :
    SameSetting w w' :=
  .of_onFiles (Memory.failing_remove path) h

theorem Distinct.key_ne
    {m : Memory}
    (h : w.Distinct path other)
    (hmemory : w.memory = some m) :
    Path.key path ≠ Path.key other := by
  simpa [Distinct, hmemory] using h

theorem Distinct.place_ne
    (h : w.Distinct path other)
    (hdisk : w.memory = none) :
    placeOf path ≠ placeOf other := by
  rw [Distinct, hdisk] at h
  exact h

/-- Where two paths do not lead to different files, they lead to one. -/
theorem file?_of_not_distinct
    (h : ¬ w.Distinct path other) :
    w.file? path = w.file? other := by
  cases hmemory : w.memory with
  | some m =>
      have hkey : Path.key path = Path.key other := by simpa [Distinct, hmemory] using h
      rw [file?_of_memory path hmemory, file?_of_memory other hmemory, hkey]
  | none =>
      have hplace : placeOf path = placeOf other := by simpa [Distinct, hmemory] using h
      rw [file?_of_disk path hmemory, file?_of_disk other hmemory, Disk.file?, Disk.file?, hplace]

/-- A change of files that keeps one of them in memory and on disk keeps it in a world. -/
theorem keepsFile_onFiles
    {inMemory : Memory → Except FileFault Unit × Memory}
    {onDisk : Disk → Except FileFault Unit × Disk}
    (hmemory : ∀ m, w.memory = some m → m.SameAt path (inMemory m).2)
    (hdisk : w.memory = none → Disk.KeepsFile path w.machine.disk (onDisk w.machine.disk).2)
    (h : w.onFiles inMemory onDisk = (result, w')) :
    KeepsFile path w w' := by
  cases hfiles : w.memory with
  | some m =>
      rw [onFiles_of_memory hfiles] at h
      cases h
      exact .of_sameAt hfiles rfl (hmemory m hfiles)
  | none =>
      rw [onFiles_of_disk hfiles] at h
      cases h
      exact .of_disk hfiles hfiles (hdisk hfiles)

/-- A file that is written is there with its text and can be seen. -/
theorem file?_of_write
    (h : FileSystem.write path text w = (.ok (), w')) :
    (∃ mode, w'.file? path = some ⟨text.toUTF8, mode⟩) ∧
      w'.fileSight path = some (some text.toUTF8) := by
  have hseen : w'.fileSight path = some (some text.toUTF8) := by
    rcases onFiles_eq_ok h with ⟨m, m', -, hmemory', hwrite⟩ | ⟨-, hdisk', hwrite⟩
    · obtain ⟨-, rfl⟩ := Memory.write_eq_ok_iff.1 hwrite
      simp [fileSight_of_memory path hmemory']
    · obtain ⟨place, hlook⟩ := Disk.look_of_replace hwrite
      rw [fileSight_of_disk path hdisk', Disk.sight_of_look hlook, Node.content?]
  exact ⟨exists_file?_of_fileSight hseen, hseen⟩

theorem keepsFile_of_write
    (hapart : w.Apart other path)
    (h : FileSystem.write path text w = (result, w')) :
    KeepsFile other w w' :=
  keepsFile_onFiles (fun m hm => m.sameAt_write text (hapart.distinct.key_ne hm))
    (fun hdisk => Disk.keepsFile_of_replace (hapart.distinct.place_ne hdisk) (hapart.beside hdisk)
      (Prod.eta (Disk.replace Disk.noTrouble path text w.machine.disk)).symm) h

theorem keepsFile_or_lost_of_write
    (hother : w.Distinct other path)
    (h : FileSystem.write path text w = (result, w')) :
    KeepsFile other w w' ∨ w'.file? other = none := by
  cases hfiles : w.memory with
  | some m =>
      exact .inl (keepsFile_of_write ⟨hother, fun hdisk => by rw [hfiles] at hdisk; cases hdisk⟩ h)
  | none =>
      have hwritten : FileSystem.write path text w = _ := onFiles_of_disk hfiles _ _
      rw [hwritten] at h
      obtain ⟨-, rfl⟩ := Prod.mk.inj h
      rcases Disk.keepsFile_or_lost_of_replace (hother.place_ne hfiles)
        (Prod.eta (Disk.replace Disk.noTrouble path text w.machine.disk)).symm with hkept | hlost
      · exact .inl (.of_disk hfiles hfiles hkept)
      · exact .inr ((file?_withDisk other _ hfiles).trans hlost)

/-- When a file cannot be written, every file is kept, or on disk lost at the place of the temporary one. -/
theorem keepsFile_or_lost_of_error
    {fault : FileFault}
    (other : String)
    (h : FileSystem.write path text w = (.error fault, w')) :
    KeepsFile other w w' ∨
      w.memory = none ∧ placeOf other = placeOf (Path.temporary path) ∧ w'.file? other = none := by
  cases hfiles : w.memory with
  | some m =>
      rw [eq_of_write_eq_error (by rw [hfiles]; exact Option.some_ne_none m) h]
      exact .inl (.refl other w)
  | none =>
      have hwritten : FileSystem.write path text w = _ := onFiles_of_disk hfiles _ _
      rw [hwritten] at h
      obtain ⟨herror, rfl⟩ := Prod.mk.inj h
      rcases Disk.keepsFile_or_lost_of_error (Prod.ext herror rfl) with hkept | ⟨hbeside, hlost⟩
      · exact .inl (.of_disk hfiles hfiles hkept)
      · exact .inr ⟨rfl, hbeside, (file?_withDisk other _ hfiles).trans hlost⟩

/-- Whatever is written, a file is afterwards what it was, or gone, or holds what has been written. -/
theorem file?_of_write_cases
    (other : String)
    (h : FileSystem.write path text w = (result, w')) :
    w'.file? other = w.file? other ∨ w'.file? other = none ∨
      ∃ mode, w'.file? other = some ⟨text.toUTF8, mode⟩ := by
  by_cases hdistinct : w.Distinct other path
  · rcases keepsFile_or_lost_of_write hdistinct h with hkept | hlost
    · exact .inl hkept.file
    · exact .inr (.inl hlost)
  · cases result with
    | ok u =>
        have hsetting := sameSetting_of_write h
        have hsame : ¬ w'.Distinct other path := by
          rwa [Distinct, hsetting.isSome_memory]
        exact .inr (.inr (file?_of_not_distinct hsame ▸ (file?_of_write h).1))
    | error fault =>
        rcases keepsFile_or_lost_of_error other h with hkept | ⟨-, -, hlost⟩
        · exact .inl hkept.file
        · exact .inr (.inl hlost)

theorem keepsFile_of_setMode
    {mode : Nat}
    (hother : w.Distinct other path)
    (h : FileSystem.setMode path mode w = (result, w')) :
    KeepsFile other w w' :=
  keepsFile_onFiles (fun m hm => m.sameAt_setMode mode (hother.key_ne hm))
    (fun hdisk => Disk.keepsFile_of_changeMode (hother.place_ne hdisk) rfl) h

theorem keepsFile_of_remove
    (hother : w.Distinct other path)
    (h : FileSystem.remove path w = (result, w')) :
    KeepsFile other w w' :=
  keepsFile_onFiles (fun m hm => m.sameAt_remove (hother.key_ne hm))
    (fun hdisk => Disk.keepsFile_of_removeFile (hother.place_ne hdisk) rfl) h

end Calls
end World

open World (KeepsFile)

namespace Vault

variable {v : Vault} {c : Collection} {w w' : World} {other text : String}

section Storing

variable {result : Except FileFault Unit}

theorem sameSetting_of_writePrivate
    (h : v.writePrivate text w = (result, w')) :
    World.SameSetting w w' := by
  unfold writePrivate at h
  split at h
  · next hwrite =>
      cases h
      exact World.sameSetting_of_write hwrite
  · next hwrite => exact (World.sameSetting_of_write hwrite).trans (World.sameSetting_of_setMode h)

theorem keepsFile_of_writePrivate
    (hapart : w.Apart other v.path)
    (h : v.writePrivate text w = (result, w')) :
    KeepsFile other w w' := by
  unfold writePrivate at h
  split at h
  · next hwrite =>
      cases h
      exact World.keepsFile_of_write hapart hwrite
  · next w₁ hwrite =>
      have hsetting := World.sameSetting_of_write hwrite
      exact (World.keepsFile_of_write hapart hwrite).trans
        (World.keepsFile_of_setMode (hsetting.distinct hapart.distinct) h)

theorem keepsFile_or_lost_of_writePrivate
    (hother : w.Distinct other v.path)
    (h : v.writePrivate text w = (result, w')) :
    KeepsFile other w w' ∨ w'.file? other = none := by
  unfold writePrivate at h
  split at h
  · next hwrite =>
      cases h
      exact World.keepsFile_or_lost_of_write hother hwrite
  · next w₁ hwrite =>
      have hsetting := World.sameSetting_of_write hwrite
      have hmode := World.keepsFile_of_setMode (hsetting.distinct hother) h
      rcases World.keepsFile_or_lost_of_write hother hwrite with hkept | hlost
      · exact .inl (hkept.trans hmode)
      · exact .inr (hmode.file.trans hlost)

/-- A text that has been stored stands in a private file. -/
theorem file?_of_writePrivate
    (h : v.writePrivate text w = (.ok (), w')) :
    w'.file? v.path = some ⟨text.toUTF8, some privateMode⟩ ∧
      w'.fileSight v.path = some (some text.toUTF8) := by
  unfold writePrivate at h
  split at h
  · cases h
  · next w₁ hwrite =>
      rcases World.onFiles_eq_ok hwrite with ⟨m, m₁, -, hmemory₁, hwritten⟩ | ⟨-, hdisk₁, hwritten⟩
      · obtain ⟨-, rfl⟩ := Memory.write_eq_ok_iff.1 hwritten
        rcases World.onFiles_eq_ok h with ⟨m', m'', hm', hmemory', hset⟩ | ⟨hdisk, -, -⟩
        · cases hmemory₁.symm.trans hm'
          obtain ⟨-, rfl⟩ := Memory.setMode_eq_ok_iff.1 hset
          rw [World.file?_of_memory _ hmemory', World.fileSight_of_memory _ hmemory']
          simp
        · rw [hmemory₁] at hdisk
          cases hdisk
      · have hlook := (Disk.replaced_of_ok hwritten).content
        rcases World.onFiles_eq_ok h with ⟨m', m'', hm', -, -⟩ | ⟨-, hdisk', hset⟩
        · rw [hdisk₁] at hm'
          cases hm'
        · have hlook' := Disk.look_of_changeMode hlook hset
          rw [World.file?_of_disk _ hdisk', World.fileSight_of_disk _ hdisk', Disk.file?_of_look hlook',
            Disk.sight_of_look hlook', Node.content?]
          exact ⟨rfl, rfl⟩

end Storing

section Saving

variable {result : Except Abort Unit}

/-- A save stores a text, or does nothing. -/
theorem writePrivate_or_eq_of_save
    (h : v.save c w = (result, w')) :
    (∃ text stored, v.writePrivate text w = (stored, w')) ∨ w' = w := by
  unfold save at h
  split at h
  · cases h
    exact .inr rfl
  · next text _ =>
      split at h
      · next hwrite =>
          cases h
          exact .inl ⟨text, _, hwrite⟩
      · next hwrite =>
          cases h
          exact .inl ⟨text, _, hwrite⟩

theorem sameSetting_of_save
    (h : v.save c w = (result, w')) :
    World.SameSetting w w' := by
  rcases writePrivate_or_eq_of_save h with ⟨text, stored, hstored⟩ | rfl
  · exact sameSetting_of_writePrivate hstored
  · exact .refl w'

theorem keepsFile_of_save
    (hapart : w.Apart other v.path)
    (h : v.save c w = (result, w')) :
    KeepsFile other w w' := by
  rcases writePrivate_or_eq_of_save h with ⟨text, stored, hstored⟩ | rfl
  · exact keepsFile_of_writePrivate hapart hstored
  · exact .refl other w'

theorem keepsFile_or_lost_of_save
    (hother : w.Distinct other v.path)
    (h : v.save c w = (result, w')) :
    KeepsFile other w w' ∨ w'.file? other = none := by
  rcases writePrivate_or_eq_of_save h with ⟨text, stored, hstored⟩ | rfl
  · exact keepsFile_or_lost_of_writePrivate hother hstored
  · exact .inl (.refl other w')

/-- After a save the text of the collection stands in a private file. -/
theorem file?_of_save
    (htext : toText? c = some text)
    (h : v.save c w = (.ok (), w')) :
    w'.file? v.path = some ⟨text.toUTF8, some privateMode⟩ ∧
      w'.fileSight v.path = some (some text.toUTF8) := by
  obtain ⟨text', htext', hstored⟩ := writePrivate_of_save h
  cases htext.symm.trans htext'
  exact file?_of_writePrivate hstored

end Saving

section Contents

/-- A key store that cannot be seen is empty. -/
theorem contents_of_fileSight_eq_none
    (h : w.fileSight v.path = none) :
    v.contents w = .ok .empty := by
  rw [contents, World.present_eq_isSome_fileSight, h]
  rfl

/-- What the key store holds is decided by the text that can be seen. -/
theorem contents_of_fileSight
    (hreadable : ReadableAt v.path w)
    (h : w.fileSight v.path = some (some text.toUTF8)) :
    v.contents w = v.ofText text := by
  rw [contents, World.present_eq_isSome_fileSight, h]
  rcases World.read_of_fileSight h with hread | ⟨hfails, -⟩
  · rw [hread]
    rfl
  · exact absurd hreadable hfails

/-- A key store that holds something cannot be seen, or its text can be. -/
theorem fileSight_of_contents
    (h : v.contents w = .ok c) :
    (w.fileSight v.path = none ∧ c = .empty) ∨
      ∃ text, w.fileSight v.path = some (some text.toUTF8) ∧ v.ofText text = .ok c := by
  rw [contents, World.present_eq_isSome_fileSight] at h
  cases hseen : w.fileSight v.path with
  | none =>
      rw [hseen] at h
      cases h
      exact .inl ⟨rfl, rfl⟩
  | some seen =>
      rw [hseen, Option.isSome_some, if_pos rfl] at h
      split at h
      · cases h
      · next text hread => exact .inr ⟨text, hseen ▸ World.fileSight_of_read hread, h⟩

/-- A key store that can be read holds the same as long as nothing is written. -/
theorem contents_of_rests
    (hreadable : ReadableAt v.path w')
    (hrests : World.Rests w w')
    (h : v.contents w = .ok c) :
    v.contents w' = .ok c := by
  have hsame := hrests.fileSight v.path
  rcases fileSight_of_contents h with ⟨hnone, rfl⟩ | ⟨text, hseen, htext⟩
  · exact contents_of_fileSight_eq_none (hsame.trans hnone)
  · exact (contents_of_fileSight hreadable (hsame.trans hseen)).trans htext

/-- A key store that holds a key and can be read holds the same as long as its file is kept. -/
theorem contents_of_keepsFile
    {name : KeyName}
    (hreadable : ReadableAt v.path w')
    (hkept : KeepsFile v.path w w')
    (h : v.contents w = .ok c)
    (hname : name ∈ c.names) :
    v.contents w' = .ok c := by
  rcases fileSight_of_contents h with ⟨-, rfl⟩ | ⟨text, hseen, htext⟩
  · cases hname
  · exact (contents_of_fileSight hreadable (hkept.shown _ hseen)).trans htext

end Contents
end Vault

namespace Marker

variable {m : Marker} {name : KeyName} {w w' : World} {other : String}

/-- A name that can be seen is the one that is found, unless reading fails. -/
theorem get?_of_fileSight
    (h : w.fileSight m.path = some (some name.value.toUTF8)) :
    m.get? w = some name ∨
      ¬ ReadableAt m.path w ∧ ∃ fault, FileSystem.read m.path w = .error fault := by
  rcases World.read_of_fileSight h with hread | hfails
  · left
    rw [get?, World.present_eq_isSome_fileSight, h, hread]
    simp only [Option.isSome_some, if_true, ofText?, KeyName.ofText_value]
    rfl
  · exact .inr hfails

/-- A marker that names a key can be seen. -/
theorem exists_fileSight_of_get?
    (h : m.get? w = some name) :
    ∃ text, w.fileSight m.path = some (some text.toUTF8) ∧ ofText? text = some name := by
  unfold get? at h
  split at h
  · split at h
    · next text hread => exact ⟨text, World.fileSight_of_read hread, h⟩
    · cases h
  · cases h

theorem sameSetting_clear
    (m : Marker)
    (w : World) :
    World.SameSetting w (m.clear w).2 := by
  unfold clear
  split
  · exact World.sameSetting_of_remove rfl
  · exact .refl w

theorem keepsFile_clear
    (hother : w.Distinct other m.path) :
    KeepsFile other w (m.clear w).2 := by
  unfold clear
  split
  · exact World.keepsFile_of_remove hother rfl
  · exact .refl other w

/-- A marker that names a key is deleted, unless it is kept in memory and deleting it fails. -/
theorem file?_clear
    (h : m.get? w = some name) :
    (m.clear w).2.file? m.path = none ∨
      (∃ files ∈ w.memory, files.fails .remove m.path = true) ∧ (m.clear w).2 = w := by
  cases hfiles : w.memory with
  | some files =>
      have hget : m.get? files = some name := (m.get?_of_memory hfiles).symm.trans h
      rw [m.clear_of_memory hfiles, clear_of_get? hget]
      split
      · next hfails => exact .inr ⟨⟨files, rfl, hfails⟩, by rw [← hfiles]⟩
      · left
        rw [World.file?_of_memory m.path rfl, Memory.text_place, Option.map_none]
  | none =>
      left
      obtain ⟨text, hseen, -⟩ := exists_fileSight_of_get? h
      have hpresent : FileSystem.present m.path w.machine.disk = true := by
        rw [← World.present_of_disk m.path hfiles, World.present_eq_isSome_fileSight, hseen]
        rfl
      rw [World.fileSight_of_disk m.path hfiles] at hseen
      obtain ⟨d, hremove, hgone, -⟩ := Disk.removeFile_of_sight hseen
      have hcleared : (m.clear w.machine.disk).2 = d := by
        rw [clear, if_pos hpresent]
        exact congrArg Prod.snd hremove
      rw [m.clear_of_disk hfiles, hcleared]
      exact (World.file?_withDisk m.path d hfiles).trans hgone

/-- When a marker that names a key is deleted, every file is what it was, or gone. -/
theorem file?_clear_cases
    (other : String)
    (h : m.get? w = some name) :
    (m.clear w).2.file? other = w.file? other ∨ (m.clear w).2.file? other = none := by
  by_cases hdistinct : w.Distinct other m.path
  · exact .inl (keepsFile_clear hdistinct).file
  · have hsame : ¬ (m.clear w).2.Distinct other m.path := by
      rwa [World.Distinct, (m.sameSetting_clear w).isSome_memory]
    rw [World.file?_of_not_distinct hdistinct, World.file?_of_not_distinct hsame]
    rcases file?_clear h with hgone | ⟨-, hsame⟩
    · exact .inr hgone
    · exact .inl (by rw [hsame])

end Marker
end Keyring
