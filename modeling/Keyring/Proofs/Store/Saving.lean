import Keyring.Proofs.File.Lawful
import Keyring.Store.Vault

/-!
# What saving leaves behind

After a save that succeeds the key store holds the text of the collection.  Where no call of the
file system fails, a save succeeds for every collection that has a text, and the same holds again
afterwards.
-/

namespace Keyring

open LawfulFileSystem (ReadableAt)

namespace Vault

variable {σ : Type} [FileSystem σ]

/-- The state after texts have been stored one after the other. -/
def afterTexts (v : Vault) (texts : List String) (s : σ) : σ :=
  texts.foldl (fun s text => (v.writePrivate text s).2) s

/-- The key store holds the collection of its text. -/
theorem contents_of_read
    {v : Vault}
    {s : σ}
    {text : String}
    (hpresent : FileSystem.present v.path s = true)
    (hread : FileSystem.read v.path s = .ok text) :
    v.contents s = v.ofText text := by
  rw [contents, if_pos hpresent, hread]

/-- The failure of a text that is no key store names the file. -/
theorem ofText_eq_error
    {v : Vault}
    {text : String}
    {f : Failure}
    (h : v.ofText text = .error f) :
    f.kind = .corruptStore ∧ f.details = some v.details := by
  unfold ofText at h
  split at h
  · cases h
    exact ⟨rfl, rfl⟩
  · next record _ =>
      cases hcollection : record.collection with
      | error fault =>
          rw [hcollection] at h
          cases h
          exact ⟨rfl, rfl⟩
      | ok c =>
          rw [hcollection] at h
          cases h

/-- Loading yields what the key store holds, without a change. -/
theorem load_eq_ok
    {v : Vault}
    {c : Collection}
    {s s' : σ} :
    v.load s = (.ok c, s') ↔ v.contents s = .ok c ∧ s = s' := by
  unfold load
  cases v.contents s with
  | error fault =>
      constructor
      · rintro ⟨⟩
      · rintro ⟨⟨⟩, -⟩
  | ok c' =>
      constructor
      · rintro ⟨⟩
        exact ⟨rfl, rfl⟩
      · rintro ⟨⟨⟩, rfl⟩
        rfl

/-- Loading fails as the key store cannot be read or understood, without a change. -/
theorem load_eq_error
    {v : Vault}
    {abort : Abort}
    {s s' : σ} :
    v.load s = (.error abort, s') ↔
      (∃ f, v.contents s = .error f ∧ abort = .failed f) ∧ s = s' := by
  unfold load
  cases v.contents s with
  | error f =>
      constructor
      · rintro ⟨⟩
        exact ⟨⟨f, rfl, rfl⟩, rfl⟩
      · rintro ⟨⟨_, ⟨⟩, rfl⟩, rfl⟩
        rfl
  | ok c =>
      constructor
      · rintro ⟨⟩
      · rintro ⟨⟨_, ⟨⟩, -⟩, -⟩

/-- What the key store holds is what loading yields. -/
theorem load_of_contents
    {v : Vault}
    {c : Collection}
    {s : σ}
    (h : v.contents s = .ok c) :
    v.load s = (.ok c, s) :=
  load_eq_ok.2 ⟨h, rfl⟩

/-- A key store that cannot be read or understood stops the loading. -/
theorem load_of_contents_eq_error
    {v : Vault}
    {f : Failure}
    {s : σ}
    (h : v.contents s = .error f) :
    v.load s = (.error (.failed f), s) :=
  load_eq_error.2 ⟨⟨f, h, rfl⟩, rfl⟩

/-- What loading yields is what the key store holds. -/
theorem contents_of_load
    {v : Vault}
    {c : Collection}
    {s s' : σ}
    (h : v.load s = (.ok c, s')) :
    v.contents s = .ok c :=
  (load_eq_ok.1 h).1

/-- A collection that has no text ends the program before anything is written. -/
theorem save_of_toText?_eq_none
    (v : Vault)
    {c : Collection}
    (s : σ)
    (htext : toText? c = none) :
    v.save c s = (.error .crashed, s) := by
  rw [save, htext]

/-- A save that succeeds has stored the text of the collection. -/
theorem writePrivate_of_save
    {v : Vault}
    {c : Collection}
    {s s' : σ}
    (h : v.save c s = (.ok (), s')) :
    ∃ text, toText? c = some text ∧ v.writePrivate text s = (.ok (), s') := by
  unfold save at h
  split at h
  · cases h
  · next text htext =>
      split at h
      · cases h
      · next hwrite =>
          cases h
          exact ⟨text, htext, hwrite⟩

variable [LawfulFileSystem σ]

/-- Whether no call of the file system fails that the key store makes from a state on. -/
structure Steady (v : Vault) (s : σ) : Prop where
  readable : ReadableAt v.path s
  stores : ∀ texts text, (v.writePrivate text (v.afterTexts texts s)).1 = .ok ()

/-- A key store that has been loaded from a file has been read. -/
theorem readableAt_of_contents
    {v : Vault}
    {c : Collection}
    {s : σ}
    (h : v.contents s = .ok c)
    (hpresent : FileSystem.present v.path s = true) :
    ReadableAt v.path s := by
  rw [contents, if_pos hpresent] at h
  split at h
  · cases h
  · next hread => exact LawfulFileSystem.readableAt_of_read hread

/-- Time leaves the key store as it is where it can be read before and afterwards. -/
theorem contents_elapse
    {v : Vault}
    {s : σ}
    (hreadable : ReadableAt v.path s)
    (hlater : ReadableAt v.path (FileSystem.elapse s)) :
    v.contents (FileSystem.elapse s) = v.contents s := by
  rw [contents, contents, LawfulFileSystem.present_elapse, LawfulFileSystem.read_elapse hreadable hlater]

/-- A key store that is loaded before and afterwards holds the same. -/
theorem eq_of_contents_elapse
    {v : Vault}
    {c c' : Collection}
    {s : σ}
    (h : v.contents s = .ok c)
    (hlater : v.contents (FileSystem.elapse s) = .ok c') :
    c' = c := by
  have hpresent' := LawfulFileSystem.present_elapse v.path s
  by_cases hpresent : FileSystem.present v.path s = true
  · have hreadable := readableAt_of_contents h hpresent
    have hreadable' := readableAt_of_contents hlater (hpresent'.trans hpresent)
    rw [contents_elapse hreadable hreadable', h] at hlater
    exact (Except.ok.inj hlater).symm
  · rw [contents, if_neg hpresent] at h
    rw [contents, hpresent', if_neg hpresent] at hlater
    exact Except.ok.inj (hlater.symm.trans h)

/-- A text that has been stored is what the key store holds. -/
theorem read_writePrivate
    {v : Vault}
    {text : String}
    {s s' : σ}
    (hreadable : ReadableAt v.path s)
    (h : v.writePrivate text s = (.ok (), s')) :
    FileSystem.present v.path s' = true ∧ FileSystem.read v.path s' = .ok text := by
  unfold Vault.writePrivate at h
  split at h
  · cases h
  · next s₁ hwrite =>
      rw [LawfulFileSystem.present_setMode h, LawfulFileSystem.read_setMode h]
      exact ⟨LawfulFileSystem.present_write hwrite, LawfulFileSystem.read_write hreadable hwrite⟩

/-- Storing a text does not make reads of the file fail. -/
theorem readableAt_writePrivate
    (v : Vault)
    (text : String)
    {s : σ}
    (hreadable : ReadableAt v.path s) :
    ReadableAt v.path (v.writePrivate text s).2 := by
  have hwritten := LawfulFileSystem.readableAt_write v.path text hreadable
  unfold Vault.writePrivate
  split
  · next hwrite =>
      rw [hwrite] at hwritten
      exact hwritten
  · next hwrite =>
      rw [hwrite] at hwritten
      exact LawfulFileSystem.readableAt_setMode v.path privateMode hwritten

/-- A file system that fails no call fails none after a text has been stored. -/
theorem Steady.writePrivate
    {v : Vault}
    {s : σ}
    (h : v.Steady s)
    (text : String) :
    v.Steady (v.writePrivate text s).2 where
  readable := readableAt_writePrivate v text h.readable
  stores texts := h.stores (text :: texts)

/-- After a save the file of the key store holds the text of the collection. -/
theorem read_of_save
    {v : Vault}
    {c : Collection}
    {s s' : σ}
    {text : String}
    (hreadable : ReadableAt v.path s)
    (h : v.save c s = (.ok (), s'))
    (htext : toText? c = some text) :
    FileSystem.read v.path s' = .ok text ∧ v.contents s' = v.ofText text := by
  obtain ⟨text', htext', hwrite⟩ := writePrivate_of_save h
  have hsame : text' = text := Option.some.inj (htext'.symm.trans htext)
  subst hsame
  obtain ⟨hpresent, hread⟩ := read_writePrivate hreadable hwrite
  exact ⟨hread, contents_of_read hpresent hread⟩

/-- A collection that has a text is saved where no call fails. -/
theorem save_of_steady
    {v : Vault}
    {c : Collection}
    {s : σ}
    {text : String}
    (hsteady : v.Steady s)
    (htext : toText? c = some text) :
    ∃ s', v.save c s = (.ok (), s') ∧ v.Steady s' := by
  have hstored : (v.writePrivate text s).1 = .ok () := hsteady.stores [] text
  refine ⟨(v.writePrivate text s).2, ?_, hsteady.writePrivate text⟩
  have hwrite : v.writePrivate text s = (.ok (), (v.writePrivate text s).2) := by
    rw [← hstored]
  rw [save, htext]
  simp only
  rw [hwrite]

end Vault

namespace Memory

/-- Storing a text does not change which calls fail. -/
theorem failing_writePrivate
    (v : Vault)
    (text : String)
    (m : Memory) :
    (v.writePrivate text m).2.failing = m.failing := by
  have hwrite := failing_write v.path text m
  unfold Vault.writePrivate
  split
  · next heq =>
      rw [show m.write v.path text = _ from heq] at hwrite
      exact hwrite
  · next heq =>
      rw [show m.write v.path text = _ from heq] at hwrite
      rw [← hwrite]
      exact failing_setMode v.path privateMode _

/-- Storing a text does not make time go by. -/
theorem moment_writePrivate
    (v : Vault)
    (text : String)
    (m : Memory) :
    (v.writePrivate text m).2.moment = m.moment := by
  have hwrite := moment_write v.path text m
  unfold Vault.writePrivate
  split
  · next heq =>
      rw [show m.write v.path text = _ from heq] at hwrite
      exact hwrite
  · next heq =>
      rw [show m.write v.path text = _ from heq] at hwrite
      rw [← hwrite]
      exact moment_setMode v.path privateMode _

/-- A text is stored in memory when no call fails. -/
theorem writePrivate_eq_ok
    (v : Vault)
    (text : String)
    {m : Memory}
    (h : ∀ call, m.fails call v.path = false) :
    (v.writePrivate text m).1 = .ok () := by
  let written : Memory :=
    { m with text := replace m.text v.path (some text), writes := m.writes + 1 }
  have hwrite : FileSystem.write v.path text m = (.ok (), written) :=
    write_eq_ok_iff.2 ⟨h .write, rfl⟩
  have hpresent : (written.text v.path).isSome = true := by simp [written]
  have hmode : FileSystem.setMode v.path privateMode written = (.ok (), _) :=
    setMode_eq_ok_iff.2 ⟨⟨h .setMode, hpresent⟩, rfl⟩
  rw [Vault.writePrivate, hwrite]
  exact congrArg Prod.fst hmode

/-- In memory no call of the key store fails unless calls have been told to fail. -/
theorem steady
    (v : Vault)
    {m : Memory}
    (h : ∀ call, m.fails call v.path = false) :
    v.Steady m where
  readable := h .read
  stores texts text := by
    induction texts generalizing m with
    | nil => exact writePrivate_eq_ok v text h
    | cons first texts ih =>
        apply ih
        intro call
        rw [fails, failing_writePrivate, moment_writePrivate]
        exact h call

end Memory
end Keyring
