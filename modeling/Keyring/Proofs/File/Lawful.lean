import Keyring.File.Memory

/-!
# What is asked of a file system

A file that has been written holds its text, and permissions do not change texts.  This is all that
the key store relies on.  Calls may still fail: the laws speak of those that succeed, and reading is
trusted only where no read call fails.
-/

namespace Keyring

/-- A file system that keeps what is written. -/
class LawfulFileSystem (σ : Type) [FileSystem σ] where
  /-- The states in which no read of a file fails for a reason of its own. -/
  ReadableAt : String → σ → Prop
  /-- The states from which on no read of any file fails for a reason of its own. -/
  Readable : σ → Prop
  /-- Where no read fails, no read of one file does. -/
  readableAt : ∀ {s : σ}, Readable s → ∀ path : String, ReadableAt path s
  /-- A file has been read where reading it can be trusted. -/
  readableAt_of_read :
    ∀ {path text : String} {s : σ}, FileSystem.read path s = .ok text → ReadableAt path s
  /-- Writing does not make reads of a file fail. -/
  readableAt_write :
    ∀ {path : String} (other text : String) {s : σ},
      ReadableAt path s → ReadableAt path (FileSystem.write other text s).2
  /-- Setting permissions does not make reads of a file fail. -/
  readableAt_setMode :
    ∀ {path : String} (other : String) (mode : Nat) {s : σ},
      ReadableAt path s → ReadableAt path (FileSystem.setMode other mode s).2
  /-- Writing does not make reads fail. -/
  readable_write :
    ∀ (path text : String) {s : σ}, Readable s → Readable (FileSystem.write path text s).2
  /-- Setting permissions does not make reads fail. -/
  readable_setMode :
    ∀ (path : String) (mode : Nat) {s : σ}, Readable s → Readable (FileSystem.setMode path mode s).2
  /-- No read fails later either. -/
  readable_elapse : ∀ {s : σ}, Readable s → Readable (FileSystem.elapse s)
  /-- A file that has been written exists. -/
  present_write :
    ∀ {path text : String} {s s' : σ},
      FileSystem.write path text s = (.ok (), s') → FileSystem.present path s' = true
  /-- A file that has been written holds its text. -/
  read_write :
    ∀ {path text : String} {s s' : σ},
      ReadableAt path s → FileSystem.write path text s = (.ok (), s') →
        FileSystem.read path s' = .ok text
  /-- A file exists as before when its permissions have been set. -/
  present_setMode :
    ∀ {path : String} {mode : Nat} {s s' : σ},
      FileSystem.setMode path mode s = (.ok (), s') →
        FileSystem.present path s' = FileSystem.present path s
  /-- A file holds the same text when its permissions have been set. -/
  read_setMode :
    ∀ {path : String} {mode : Nat} {s s' : σ},
      FileSystem.setMode path mode s = (.ok (), s') →
        FileSystem.read path s' = FileSystem.read path s
  /-- The same files exist later. -/
  present_elapse :
    ∀ (path : String) (s : σ), FileSystem.present path (FileSystem.elapse s) = FileSystem.present path s
  /-- A file holds the same text later, if it can be read then. -/
  read_elapse :
    ∀ {path : String} {s : σ}, ReadableAt path s → ReadableAt path (FileSystem.elapse s) →
      FileSystem.read path (FileSystem.elapse s) = FileSystem.read path s

namespace Memory

/-- A replaced file holds its new text. -/
@[simp] theorem replace_self
    {α : Type}
    (f : Path.Key → α)
    (path : Path.Key)
    (value : α) :
    replace f path value path = value := by
  rw [replace, if_pos rfl]

/-- What a successful write leaves in memory. -/
theorem write_eq_ok_iff
    {path text : String}
    {m m' : Memory} :
    m.write path text = (.ok (), m') ↔
      m.fails .write path = false ∧
        m' = { m with text := replace m.text path (some text), writes := m.writes + 1 } := by
  cases hfail : m.fails .write path with
  | false => simp [write, hfail, eq_comm]
  | true => simp [write, hfail]

/-- A write that fails leaves the memory as it was. -/
theorem write_eq_error_iff
    {path text : String}
    {fault : FileFault}
    {m m' : Memory} :
    m.write path text = (.error fault, m') ↔
      m.fails .write path = true ∧ fault = .scripted .write ∧ m' = m := by
  cases hfail : m.fails .write path with
  | false => simp [write, hfail]
  | true => simp [write, hfail, eq_comm]

/-- What a successful change of permissions leaves in memory. -/
theorem setMode_eq_ok_iff
    {path : String}
    {mode : Nat}
    {m m' : Memory} :
    m.setMode path mode = (.ok (), m') ↔
      (m.fails .setMode path = false ∧ (m.text path).isSome = true) ∧
        m' = { m with mode := replace m.mode path (some mode), modeChanges := m.modeChanges + 1 } := by
  cases hfail : m.fails .setMode path with
  | false =>
      cases htext : m.text path with
      | none => simp [setMode, hfail, htext]
      | some text => simp [setMode, hfail, htext, eq_comm]
  | true => simp [setMode, hfail]

/-- A change of permissions that fails leaves the memory as it was. -/
theorem setMode_eq_error_iff
    {path : String}
    {mode : Nat}
    {fault : FileFault}
    {m m' : Memory} :
    m.setMode path mode = (.error fault, m') ↔
      ((m.fails .setMode path = true ∧ fault = .scripted .setMode) ∨
        (m.fails .setMode path = false ∧ m.text path = none ∧ fault = .missing path)) ∧ m' = m := by
  cases hfail : m.fails .setMode path with
  | false =>
      cases htext : m.text path with
      | none => simp [setMode, hfail, htext, eq_comm]
      | some text => simp [setMode, hfail, htext]
  | true => simp [setMode, hfail, eq_comm]

/-- Writing does not change which calls fail. -/
@[simp] theorem failing_write
    (path text : String)
    (m : Memory) :
    (m.write path text).2.failing = m.failing := by
  unfold write
  split
  · rfl
  · rfl

/-- Setting permissions does not change which calls fail. -/
@[simp] theorem failing_setMode
    (path : String)
    (mode : Nat)
    (m : Memory) :
    (m.setMode path mode).2.failing = m.failing := by
  unfold setMode
  split
  · rfl
  · split
    · rfl
    · rfl

/-- Writing does not make time go by. -/
@[simp] theorem moment_write
    (path text : String)
    (m : Memory) :
    (m.write path text).2.moment = m.moment := by
  unfold write
  split
  · rfl
  · rfl

/-- Setting permissions does not make time go by. -/
@[simp] theorem moment_setMode
    (path : String)
    (mode : Nat)
    (m : Memory) :
    (m.setMode path mode).2.moment = m.moment := by
  unfold setMode
  split
  · rfl
  · split
    · rfl
    · rfl

/-- A file is read where it exists and no call fails. -/
theorem read_of_text
    {path text : String}
    {m : Memory}
    (hreadable : m.fails .read path = false)
    (htext : m.text path = some text) :
    m.read path = .ok text := by
  rw [read, hreadable, if_neg Bool.false_ne_true, htext]

/-- A file with a text exists. -/
theorem present_of_text
    {path text : String}
    {m : Memory}
    (htext : m.text path = some text) :
    FileSystem.present path m = true := by
  change (m.text path).isSome = true
  rw [htext, Option.isSome_some]

/-- A file that has been put is there. -/
@[simp] theorem text_place
    (m : Memory)
    (path : String)
    (text : Option String) :
    (m.place path text).text path = text :=
  replace_self m.text path text

instance : LawfulFileSystem Memory where
  ReadableAt path m := m.fails .read path = false
  Readable m := ∀ moment path, m.failing moment .read path = false
  readableAt h path := h _ path
  readableAt_of_read := by
    intro path text m hread
    change m.read path = .ok text at hread
    unfold read at hread
    split at hread
    · cases hread
    · next hfail => exact Bool.eq_false_iff.2 hfail
  readableAt_write := by
    intro path other text m hreadable
    change (m.write other text).2.fails .read path = false
    rw [fails, failing_write, moment_write]
    exact hreadable
  readableAt_setMode := by
    intro path other mode m hreadable
    change (m.setMode other mode).2.fails .read path = false
    rw [fails, failing_setMode, moment_setMode]
    exact hreadable
  readable_write := by
    intro path text m hreadable
    change ∀ moment path', (m.write path text).2.failing moment .read path' = false
    rw [failing_write]
    exact hreadable
  readable_setMode := by
    intro path mode m hreadable
    change ∀ moment path', (m.setMode path mode).2.failing moment .read path' = false
    rw [failing_setMode]
    exact hreadable
  readable_elapse hreadable := hreadable
  present_write := by
    intro path text m m' hwrite
    obtain ⟨-, rfl⟩ := write_eq_ok_iff.1 hwrite
    simp [FileSystem.present]
  read_write := by
    intro path text m m' hreadable hwrite
    obtain ⟨-, rfl⟩ := write_eq_ok_iff.1 hwrite
    exact read_of_text hreadable (replace_self m.text path _)
  present_setMode := by
    intro path mode m m' hmode
    obtain ⟨-, rfl⟩ := setMode_eq_ok_iff.1 hmode
    rfl
  read_setMode := by
    intro path mode m m' hmode
    obtain ⟨-, rfl⟩ := setMode_eq_ok_iff.1 hmode
    rfl
  present_elapse _ _ := rfl
  read_elapse := by
    intro path m hreadable hlater
    have hlater' : m.elapse.fails .read path = false := hlater
    change m.elapse.read path = m.read path
    rw [read, read, hreadable, hlater']
    rfl

end Memory
end Keyring
