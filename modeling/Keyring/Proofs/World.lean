import Keyring.Proofs.Action
import Keyring.Proofs.Machine
import Keyring.Secret
import Keyring.Store.Vault

/-!
# The files of a world

A world keeps what is written, whether its files are in memory or on disk.  Reading a secret and
asking a question leave the files alone, so the key store holds the same before and after.
-/

namespace Keyring
namespace World

open LawfulFileSystem (Readable ReadableAt)

section OnFiles

variable {w w' : World}
variable {inMemory : Memory → Except FileFault Unit × Memory}
variable {onDisk : Disk → Except FileFault Unit × Disk}

/-- The files in memory after a change. -/
theorem memory_onFiles :
    (w.onFiles inMemory onDisk).2.memory = w.memory.map fun m => (inMemory m).2 := by
  unfold onFiles
  split
  · next m hmemory => rw [hmemory, Option.map_some]
  · next hmemory =>
      rw [hmemory, Option.map_none]
      exact hmemory

/-- A change that succeeds has succeeded in memory or on disk. -/
theorem onFiles_eq_ok (h : w.onFiles inMemory onDisk = (.ok (), w')) :
    (∃ m m', w.memory = some m ∧ w'.memory = some m' ∧ inMemory m = (.ok (), m')) ∨
      (w.memory = none ∧ w'.memory = none ∧
        onDisk w.machine.disk = (.ok (), w'.machine.disk)) := by
  unfold onFiles at h
  split at h
  · next m hmemory =>
      obtain ⟨hresult, rfl⟩ := Prod.mk.inj h
      exact .inl ⟨m, (inMemory m).2, hmemory, rfl, Prod.ext hresult rfl⟩
  · next hmemory =>
      obtain ⟨hresult, rfl⟩ := Prod.mk.inj h
      exact .inr ⟨hmemory, hmemory, Prod.ext hresult rfl⟩

end OnFiles

section Views

variable {w : World} {m : Memory}

/-- What exists in a world with files in memory. -/
theorem present_of_memory
    (path : String)
    (h : w.memory = some m) :
    FileSystem.present path w = FileSystem.present path m := by
  simp only [FileSystem.present, h]

/-- What exists in a world with files on disk. -/
theorem present_of_disk
    (path : String)
    (h : w.memory = none) :
    FileSystem.present path w = FileSystem.present path w.machine.disk := by
  simp only [FileSystem.present, h]

/-- What is read in a world with files in memory. -/
theorem read_of_memory
    (path : String)
    (h : w.memory = some m) :
    FileSystem.read path w = FileSystem.read path m := by
  simp only [FileSystem.read, h]

/-- What is read in a world with files on disk. -/
theorem read_of_disk
    (path : String)
    (h : w.memory = none) :
    FileSystem.read path w = FileSystem.read path w.machine.disk := by
  simp only [FileSystem.read, h]

/-- The files in memory at the next moment. -/
theorem memory_elapse_of_memory
    (h : w.memory = some m) :
    (FileSystem.elapse w).memory = some (FileSystem.elapse m) := by
  simp only [FileSystem.elapse, h, Option.map_some]

/-- Files on disk stay there. -/
theorem memory_elapse_of_disk
    (h : w.memory = none) :
    (FileSystem.elapse w).memory = none := by
  simp only [FileSystem.elapse, h, Option.map_none]

end Views

/-- What holds of the files in memory after a change, if they are there. -/
theorem forall_memory_onFiles
    {P P' : Memory → Prop}
    {w : World}
    (h : ∀ m ∈ w.memory, P m)
    (inMemory : Memory → Except FileFault Unit × Memory)
    (onDisk : Disk → Except FileFault Unit × Disk)
    (hstep : ∀ m, P m → P' (inMemory m).2) :
    ∀ m ∈ (w.onFiles inMemory onDisk).2.memory, P' m := by
  intro m' hmemory'
  rw [memory_onFiles, Option.mem_def, Option.map_eq_some_iff] at hmemory'
  obtain ⟨m, hmemory, rfl⟩ := hmemory'
  exact hstep m (h m hmemory)

instance : LawfulFileSystem World where
  ReadableAt path w := ∀ m ∈ w.memory, ReadableAt path m
  Readable w := ∀ m ∈ w.memory, Readable m
  readableAt hreadable path m hmemory := LawfulFileSystem.readableAt (hreadable m hmemory) path
  readableAt_of_read := by
    intro path text w hread m hmemory
    rw [read_of_memory path hmemory] at hread
    exact LawfulFileSystem.readableAt_of_read hread
  readableAt_write := by
    intro path other text w hreadable
    exact forall_memory_onFiles hreadable _ _ fun _ => LawfulFileSystem.readableAt_write other text
  readableAt_setMode := by
    intro path other mode w hreadable
    exact forall_memory_onFiles hreadable _ _ fun _ => LawfulFileSystem.readableAt_setMode other mode
  readable_write := by
    intro path text w hreadable
    exact forall_memory_onFiles hreadable _ _ fun _ => LawfulFileSystem.readable_write path text
  readable_setMode := by
    intro path mode w hreadable
    exact forall_memory_onFiles hreadable _ _ fun _ => LawfulFileSystem.readable_setMode path mode
  readable_elapse := by
    intro w hreadable m' hmemory'
    obtain ⟨m, hmemory, rfl⟩ := Option.map_eq_some_iff.1 hmemory'
    exact LawfulFileSystem.readable_elapse (hreadable m hmemory)
  present_write := by
    intro path text w w' hwrite
    rcases onFiles_eq_ok hwrite with ⟨m, m', hmemory, hmemory', hok⟩ | ⟨hmemory, hmemory', hok⟩
    · rw [present_of_memory path hmemory', LawfulFileSystem.present_write hok]
    · rw [present_of_disk path hmemory', LawfulFileSystem.present_write hok]
  read_write := by
    intro path text w w' hreadable hwrite
    rcases onFiles_eq_ok hwrite with ⟨m, m', hmemory, hmemory', hok⟩ | ⟨hmemory, hmemory', hok⟩
    · rw [read_of_memory path hmemory', LawfulFileSystem.read_write (hreadable m hmemory) hok]
    · rw [read_of_disk path hmemory', LawfulFileSystem.read_write trivial hok]
  present_setMode := by
    intro path mode w w' hmode
    rcases onFiles_eq_ok hmode with ⟨m, m', hmemory, hmemory', hok⟩ | ⟨hmemory, hmemory', hok⟩
    · rw [present_of_memory path hmemory', present_of_memory path hmemory,
        LawfulFileSystem.present_setMode hok]
    · rw [present_of_disk path hmemory', present_of_disk path hmemory,
        LawfulFileSystem.present_setMode hok]
  read_setMode := by
    intro path mode w w' hmode
    rcases onFiles_eq_ok hmode with ⟨m, m', hmemory, hmemory', hok⟩ | ⟨hmemory, hmemory', hok⟩
    · rw [read_of_memory path hmemory', read_of_memory path hmemory,
        LawfulFileSystem.read_setMode hok]
    · rw [read_of_disk path hmemory', read_of_disk path hmemory,
        LawfulFileSystem.read_setMode hok]
  present_elapse := by
    intro path w
    cases hmemory : w.memory with
    | none => rw [present_of_disk path hmemory, present_of_disk path (memory_elapse_of_disk hmemory)]; rfl
    | some m =>
        rw [present_of_memory path hmemory, present_of_memory path (memory_elapse_of_memory hmemory)]
        exact LawfulFileSystem.present_elapse path m
  read_elapse := by
    intro path w hreadable hlater
    cases hmemory : w.memory with
    | none => rw [read_of_disk path hmemory, read_of_disk path (memory_elapse_of_disk hmemory)]; rfl
    | some m =>
        rw [read_of_memory path hmemory, read_of_memory path (memory_elapse_of_memory hmemory)]
        exact LawfulFileSystem.read_elapse (hreadable m hmemory)
          (hlater _ (memory_elapse_of_memory hmemory))

/-- Whether two worlds have the same files. -/
def SameFiles (w w' : World) : Prop :=
  w'.memory = w.memory ∧ w'.machine.disk = w.machine.disk

namespace SameFiles

variable {w w' : World}

/-- Reads can be trusted where they could before. -/
theorem readable
    (h : SameFiles w w')
    (hreadable : Readable w) :
    Readable w' := by
  intro m hmemory
  rw [h.1] at hmemory
  exact hreadable m hmemory

/-- The key store holds what it held before. -/
theorem contents
    (h : SameFiles w w')
    (v : Vault) :
    v.contents w' = v.contents w := by
  simp only [Vault.contents, FileSystem.present, FileSystem.read, h.1, h.2]

end SameFiles

/-- Whether two worlds differ at most in their files: nothing has been read, shown, asked, chosen or
launched in between. -/
structure SameDialogue (w w' : World) : Prop where
  input : w'.input = w.input
  terminal : w'.terminal = w.terminal
  output : w'.output = w.output
  consultations : w'.consultations = w.consultations
  pickers : w'.pickers = w.pickers
  launches : w'.launches = w.launches

/-- A world has the same dialogue as itself. -/
theorem SameDialogue.refl (w : World) :
    SameDialogue w w :=
  ⟨rfl, rfl, rfl, rfl, rfl, rfl⟩

/-- A change of files is no part of the dialogue. -/
theorem sameDialogue_onFiles
    (w : World)
    (inMemory : Memory → Except FileFault Unit × Memory)
    (onDisk : Disk → Except FileFault Unit × Disk) :
    SameDialogue w (w.onFiles inMemory onDisk).2 := by
  unfold onFiles
  split
  · exact ⟨rfl, rfl, rfl, rfl, rfl, rfl⟩
  · exact ⟨rfl, rfl, rfl, rfl, rfl, rfl⟩

/-- Whether nothing has been done between two worlds but to start programs: nothing to files in memory,
and nothing has been launched. -/
structure Idle (w w' : World) : Prop where
  memory : w'.memory = w.memory
  machine : w.machine.Worked w'.machine
  launches : w'.launches = w.launches

namespace Idle

variable {w w' w'' : World}

theorem refl (w : World) :
    Idle w w :=
  ⟨rfl, .refl, rfl⟩

theorem trans
    (h : Idle w w')
    (h' : Idle w' w'') :
    Idle w w'' :=
  ⟨h'.memory.trans h.memory, h.machine.trans h'.machine, h'.launches.trans h.launches⟩

end Idle

/-- Whether no file has changed between two worlds, no program has been started and nothing has been
launched; some time may have gone by. -/
structure Rests (w w' : World) : Prop where
  memory : ∃ moment, w'.memory = w.memory.map fun m => { m with moment := moment }
  machine : w'.machine = w.machine
  launches : w'.launches = w.launches

namespace Rests

variable {w w' w'' : World} {m m' : Memory}

theorem of_memory_eq
    (hmemory : w'.memory = w.memory)
    (hmachine : w'.machine = w.machine)
    (hlaunches : w'.launches = w.launches) :
    Rests w w' := by
  refine ⟨?_, hmachine, hlaunches⟩
  cases hfiles : w.memory with
  | none => exact ⟨0, by rw [hmemory, hfiles]; rfl⟩
  | some m => exact ⟨m.moment, by rw [hmemory, hfiles]; rfl⟩

theorem refl (w : World) :
    Rests w w :=
  of_memory_eq rfl rfl rfl

theorem trans
    (h : Rests w w')
    (h' : Rests w' w'') :
    Rests w w'' := by
  obtain ⟨moment, hmemory⟩ := h.memory
  obtain ⟨moment', hmemory'⟩ := h'.memory
  refine ⟨⟨moment', ?_⟩, h'.machine.trans h.machine, h'.launches.trans h.launches⟩
  rw [hmemory', hmemory, Option.map_map]
  rfl

/-- Time goes by without a change. -/
theorem elapse (w : World) :
    Rests w (FileSystem.elapse w) := by
  refine ⟨?_, rfl, rfl⟩
  cases hfiles : w.memory with
  | none => exact ⟨0, memory_elapse_of_disk hfiles⟩
  | some m => exact ⟨m.moment + 1, memory_elapse_of_memory hfiles⟩

theorem memory_of_some
    (h : Rests w w')
    (hmemory : w.memory = some m) :
    ∃ moment, w'.memory = some { m with moment := moment } := by
  obtain ⟨moment, hmemory'⟩ := h.memory
  exact ⟨moment, by rw [hmemory', hmemory, Option.map_some]⟩

theorem memory_of_none
    (h : Rests w w')
    (hmemory : w.memory = none) :
    w'.memory = none := by
  obtain ⟨moment, hmemory'⟩ := h.memory
  rw [hmemory', hmemory, Option.map_none]

end Rests

/-- A write that fails leaves a world with files in memory as it was. -/
theorem eq_of_write_eq_error
    {w w' : World}
    {path text : String}
    {fault : FileFault}
    (hmemory : w.memory ≠ none)
    (h : FileSystem.write path text w = (.error fault, w')) :
    w' = w := by
  change w.onFiles (FileSystem.write path text) (FileSystem.write path text) = _ at h
  unfold onFiles at h
  split at h
  · next m hm =>
      obtain ⟨hresult, rfl⟩ := Prod.mk.inj h
      have hsame : (m.write path text).2 = m :=
        (Memory.write_eq_error_iff.1 (Prod.ext hresult rfl)).2.2
      change { w with memory := some (m.write path text).2 } = w
      rw [hsame, ← hm]
  · next hnone => exact absurd hnone hmemory

end World

/-- Reading a secret leaves the world as its source does. -/
theorem readSecret_snd
    (spec : String)
    (w : World) :
    (readSecret spec w).2 = ((SecretSource.ofText spec).raw w).2 := by
  have hinput : (readInput spec w).2 = ((SecretSource.ofText spec).raw w).2 := by
    unfold readInput
    split
    · next heq => rw [heq]
    · next heq => rw [heq]
  rw [← hinput]
  unfold readSecret
  split
  · next heq => rw [heq]
  · next heq => rw [heq]

/-- Reading a secret takes away what is read or entered, and shows at most a prompt. -/
theorem exists_input_of_readSecret
    (spec : String)
    (w : World) :
    ∃ input t, (readSecret spec w).2 = { w with input := input, terminal := t } := by
  rw [readSecret_snd]
  cases SecretSource.ofText spec with
  | prompt label =>
      simp only [SecretSource.raw]
      split
      · exact ⟨w.input, w.terminal, rfl⟩
      · next t _ => exact ⟨w.input, t, rfl⟩
  | input =>
      simp only [SecretSource.raw]
      split
      · exact ⟨.empty, w.terminal, rfl⟩
      · exact ⟨.empty, w.terminal, rfl⟩
  | file path =>
      simp only [SecretSource.raw]
      split
      · exact ⟨w.input, w.terminal, rfl⟩
      · exact ⟨w.input, w.terminal, rfl⟩
  | environment name =>
      simp only [SecretSource.raw]
      split
      · exact ⟨w.input, w.terminal, rfl⟩
      · exact ⟨w.input, w.terminal, rfl⟩
  | literal text => exact ⟨w.input, w.terminal, rfl⟩

/-- Reading a secret leaves the files alone. -/
theorem sameFiles_readSecret
    (spec : String)
    (w : World) :
    World.SameFiles w (readSecret spec w).2 := by
  obtain ⟨input, t, hafter⟩ := exists_input_of_readSecret spec w
  rw [hafter]
  exact ⟨rfl, rfl⟩

/-- Reading a secret writes, starts and launches nothing. -/
theorem rests_readSecret
    (spec : String)
    (w : World) :
    World.Rests w (readSecret spec w).2 := by
  obtain ⟨input, t, hafter⟩ := exists_input_of_readSecret spec w
  rw [hafter]
  exact .of_memory_eq rfl rfl rfl

end Keyring
