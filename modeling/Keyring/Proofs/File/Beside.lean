import Keyring.Proofs.File.Atomicity

/-!
# Files beside the one that is written

What becomes of a file when another one is written depends on where its path leads.  It is kept if that is
neither the place of the other file nor that of the temporary file in writing it.  At the place of the
temporary file nothing is left in the end, unless the temporary file could not even be made; so a file there
is kept or lost, but never changed.  The same holds of the file itself when writing it fails:
`Disk.keepsFile_or_lost_of_error`.
-/

namespace Keyring

/-- A file: its bytes, and its permission bits if they are known. -/
structure StoredFile where
  content : ByteArray
  mode : Option Nat

namespace Disk

/-- The file at the place that a path leads to; a directory there is none. -/
def file? (d : Disk) (path : String) : Option StoredFile :=
  match d.at? (placeOf path) with
  | some (.file content mode) => some ⟨content, some mode⟩
  | _ => none

section Files

variable {d d' d'' : Disk} {path other : String}

theorem file?_eq_some_iff {f : StoredFile} :
    d.file? path = some f ↔
      ∃ mode, d.at? (placeOf path) = some (.file f.content mode) ∧ f.mode = some mode := by
  obtain ⟨content, bits⟩ := f
  unfold file?
  split
  · next content' mode hnode => simp [hnode, eq_comm]
  · next hnone =>
      constructor
      · rintro ⟨⟩
      · rintro ⟨mode, hnode, -⟩
        exact absurd hnode (hnone content mode)

/-- There is no file where nothing or a directory exists. -/
theorem file?_eq_none
    (h : d.at? (placeOf path) = none ∨ d.IsDirectory (placeOf path)) :
    d.file? path = none := by
  rcases h with hnone | ⟨mode, hdirectory⟩
  · rw [file?, hnone]
  · rw [file?, hdirectory]

/-- The same file is where the same exists. -/
theorem file?_congr (h : d'.at? (placeOf path) = d.at? (placeOf path)) :
    d'.file? path = d.file? path := by
  rw [file?, file?, h]

/-- A file that can be seen under a path is the one at the place that the path leads to. -/
theorem file?_of_look
    {content : ByteArray}
    {mode : Nat}
    (h : d.look path = .ok (placeOf path, .file content mode)) :
    d.file? path = some ⟨content, some mode⟩ :=
  file?_eq_some_iff.2 ⟨mode, (look_eq_ok_iff.1 h).2.1, rfl⟩

theorem exists_look_of_sight
    {content : ByteArray}
    (h : d.sight path = some (some content)) :
    ∃ mode, d.look path = .ok (placeOf path, .file content mode) := by
  obtain ⟨node, hlook, hcontent, -⟩ := look_of_sight h
  cases node with
  | directory mode => cases hcontent
  | file content' mode =>
      cases hcontent
      exact ⟨mode, hlook⟩

/-- Whether the file at the place that a path leads to is the same in two trees, and can still be seen if it
could be. -/
structure KeepsFile (path : String) (d d' : Disk) : Prop where
  file : d'.file? path = d.file? path
  shown : ∀ content, d.sight path = some (some content) → d'.sight path = some (some content)

theorem KeepsFile.refl
    (path : String)
    (d : Disk) :
    KeepsFile path d d :=
  ⟨rfl, fun _ h => h⟩

theorem SameAt.keepsFile
    (h : SameAt path d d') :
    KeepsFile path d d' :=
  ⟨file?_congr h.node, fun _ hseen => h.sight.trans hseen⟩

/-- A file that stays can still be seen as long as all directories stay. -/
theorem keepsFile_of_file?
    (hkeeps : KeepsDirectories d d')
    (hfile : d'.file? path = d.file? path) :
    KeepsFile path d d' where
  file := hfile
  shown content hseen := by
    obtain ⟨mode, hlook⟩ := exists_look_of_sight hseen
    rw [file?_of_look hlook] at hfile
    obtain ⟨mode', hnode, -⟩ := file?_eq_some_iff.1 hfile
    exact sight_of_look (look_of_keepsDirectories hkeeps hlook hnode rfl)

/-- What has not been edited is kept; a directory may have been made where there was nothing. -/
theorem Edited.keepsFile
    {files dirs : List Place}
    (h : Edited files dirs d d')
    (hplace : placeOf path ∉ files) :
    KeepsFile path d d' := by
  refine keepsFile_of_file? h.keeps ?_
  rcases h.elsewhere _ hplace with hsame | ⟨-, hnone, hdirectory⟩
  · exact file?_congr hsame
  · rw [file?_eq_none (.inl hnone), file?_eq_none (.inr ⟨_, hdirectory⟩)]

end Files

section Temporary

variable {d d' : Disk} {path other text : String} {bytes : ByteArray} {place : Place} {fault : FileFault}

/-- A private file is not even begun where nothing can be deleted and no file can be made. -/
theorem writePrivate_of_blocked
    {e : OsError}
    (bytes : ByteArray)
    (hunlink : d.unlink path = .error e)
    (hcreate : e = .notFound → ∃ e', d.createFile path privateMode = .error e') :
    ∃ e', writePrivate noTrouble path bytes d = (d, .error e') := by
  by_cases hmissing : e = .notFound
  · obtain ⟨e', he'⟩ := hcreate hmissing
    subst hmissing
    exact ⟨e', by simp [writePrivate, step, noTrouble, discard, hunlink, he']⟩
  · have hdiscard : d.discard path = .error e := by
      unfold discard
      rw [hunlink]
      split
      · next h => exact absurd (Except.error.inj h) hmissing
      · rfl
    exact ⟨e, by simp [writePrivate, step, noTrouble, hdiscard]⟩

/-- A path that cannot be looked up, that asks for a directory or that leads to one blocks the making of a
file. -/
theorem exists_blocked
    (h : (∀ place, d.locate path ≠ .ok place) ∨ asksDirectory path = true ∨ d.IsDirectory (placeOf path)) :
    ∃ e, d.unlink path = .error e ∧
      (e = .notFound → ∃ e', d.createFile path privateMode = .error e') := by
  cases hlocate : d.locate path with
  | error e => exact ⟨e, by simp [unlink, look, hlocate], fun _ => ⟨e, by simp [createFile, hlocate]⟩⟩
  | ok place =>
      obtain rfl := eq_placeOf_of_locate hlocate
      cases hnode : d.at? (placeOf path) with
      | some node =>
          cases node with
          | directory mode => exact ⟨.isDirectory, by simp [unlink, look, hlocate, hnode], by rintro ⟨⟩⟩
          | file content mode =>
              have hasks : asksDirectory path = true := by
                rcases h with hnowhere | hasks | hdirectory
                · exact absurd hlocate (hnowhere _)
                · exact hasks
                · exact absurd hdirectory (not_isDirectory_of_file hnode)
              exact ⟨.notDirectory, by simp [unlink, look, hlocate, hnode, hasks], by rintro ⟨⟩⟩
      | none =>
          have hasks : asksDirectory path = true := by
            rcases h with hnowhere | hasks | ⟨mode, hmode⟩
            · exact absurd hlocate (hnowhere _)
            · exact hasks
            · rw [hnode] at hmode
              cases hmode
          exact ⟨.notFound, by simp [unlink, look, hlocate, hnode],
            fun _ => ⟨.isDirectory, by simp [createFile, hlocate, hnode, hasks]⟩⟩

/-- After a failure the temporary file is gone, unless nothing has been done at its place. -/
theorem at?_temporary_of_writeAndRename
    (h : writeAndRename noTrouble path bytes d = (d', .error fault)) :
    d'.discardNew noTrouble path = d ∨
      (d'.discardNew noTrouble path).at? (placeOf (Path.temporary path)) = none := by
  by_cases hblocked : (∀ place, d.locate (Path.temporary path) ≠ .ok place) ∨
      asksDirectory (Path.temporary path) = true ∨ d.IsDirectory (placeOf (Path.temporary path))
  · obtain ⟨e, hunlink, hcreate⟩ := exists_blocked hblocked
    obtain ⟨e', hwrite⟩ := writePrivate_of_blocked bytes hunlink hcreate
    rw [writeAndRename] at h
    simp only [hwrite, Prod.mk.injEq] at h
    obtain ⟨rfl, -⟩ := h
    left
    simp [discardNew, step, noTrouble, hunlink]
  · rw [not_or, not_or, Bool.not_eq_true] at hblocked
    obtain ⟨hlocates, hasks, hdirectory⟩ := hblocked
    obtain ⟨place, hlocate⟩ := not_forall_not.1 hlocates
    rw [eq_placeOf_of_locate hlocate] at hlocate
    have hwritten := edited_writeAndRename_of_error h
    exact .inr (at?_discardNew_eq_none rfl (locate_of_keepsDirectories hwritten.keeps hlocate) hasks
      (hwritten.not_isDirectory hdirectory))

end Temporary

section Writing

variable {d d' : Disk} {path other text : String} {mode : Nat} {result : Except FileFault Unit}
variable {fault : FileFault}

/-- A file is kept when another is written, unless it is the temporary one in writing it. -/
theorem keepsFile_of_replace
    (hapart : placeOf other ≠ placeOf path)
    (hbeside : placeOf other ≠ placeOf (Path.temporary path))
    (h : replace noTrouble path text d = (result, d')) :
    KeepsFile other d d' := by
  have hedited := edited_replace noTrouble path text d
  rw [h] at hedited
  exact hedited.keepsFile (by simp [hapart, hbeside])

/-- When a file cannot be written, every file is kept, or lost at the place of the temporary one. -/
theorem keepsFile_or_lost_of_error
    (h : replace noTrouble path text d = (.error fault, d')) :
    KeepsFile other d d' ∨ placeOf other = placeOf (Path.temporary path) ∧ d'.file? other = none := by
  have hedited := edited_replace_of_error h
  by_cases hbeside : placeOf other = placeOf (Path.temporary path)
  · have hparents := edited_makeParents noTrouble path d
    unfold replace at h
    split at h
    · next hmade =>
        cases h
        rw [hmade] at hparents
        exact .inl (hparents.keepsFile (by simp))
    · next d₁ hmade =>
        rw [hmade] at hparents
        split at h
        · cases h
        · next d₂ _ hwrite =>
            cases h
            rcases at?_temporary_of_writeAndRename hwrite with hsame | hnone
            · rw [hsame]
              exact .inl (hparents.keepsFile (by simp))
            · exact .inr ⟨hbeside, file?_eq_none (.inl (by rw [hbeside, hnone]))⟩
  · exact .inl (hedited.keepsFile (by simpa using hbeside))

/-- A file at another place than the one that is written is kept or lost. -/
theorem keepsFile_or_lost_of_replace
    (hapart : placeOf other ≠ placeOf path)
    (h : replace noTrouble path text d = (result, d')) :
    KeepsFile other d d' ∨ d'.file? other = none := by
  cases result with
  | error fault => exact (keepsFile_or_lost_of_error h).imp_right And.right
  | ok u =>
      by_cases hbeside : placeOf other = placeOf (Path.temporary path)
      · have hother : ¬ OwnTemporary path := fun hown => hapart (hbeside.trans hown)
        exact .inr (file?_eq_none (.inl (by rw [hbeside, (replaced_of_ok h).cleared hother])))
      · exact .inl (keepsFile_of_replace hapart hbeside h)

/-- Setting permission bits keeps every other file. -/
theorem keepsFile_of_changeMode
    (hapart : placeOf other ≠ placeOf path)
    (h : changeMode path mode d = (result, d')) :
    KeepsFile other d d' := by
  have hchanged : Changed [] [] d (changeMode path mode d).2 := changed_changeMode path mode d
  rw [h] at hchanged
  refine keepsFile_of_file? hchanged.keeps (file?_congr ?_)
  unfold changeMode setMode at h
  split at h
  · next hmode =>
      cases h
      split at hmode
      · cases hmode
      · next place node hlook =>
          cases hmode
          obtain rfl := eq_placeOf_of_look hlook
          exact at?_put_of_ne _ hapart
  · cases h
    rfl

/-- A private file stays one when it is made private. -/
theorem look_of_changeMode
    {content : ByteArray}
    {old : Nat}
    (hlook : d.look path = .ok (placeOf path, .file content old))
    (h : changeMode path privateMode d = (.ok (), d')) :
    d'.look path = .ok (placeOf path, .file content privateMode) := by
  have hset := setMode_of_changeMode h
  rw [setMode, hlook] at hset
  cases hset
  have hnode := (look_eq_ok_iff.1 hlook).2.1
  have hfile := not_isDirectory_of_file hnode
  exact look_of_keepsDirectories (keepsDirectories_put _ hfile) hlook
    (at?_put_self _ (ne_nil_of_not_isDirectory hfile)) rfl

/-- Deleting a file keeps every other one. -/
theorem keepsFile_of_removeFile
    (hapart : placeOf other ≠ placeOf path)
    (h : removeFile path d = (result, d')) :
    KeepsFile other d d' := by
  unfold removeFile at h
  split at h
  · next hdiscard =>
      cases h
      exact (edited_discard hdiscard).keepsFile (by simpa using hapart)
  · cases h
    exact .refl other d

/-- A file that can be seen is deleted. -/
theorem removeFile_of_sight
    {content : ByteArray}
    (hseen : d.sight path = some (some content)) :
    ∃ d', removeFile path d = (.ok (), d') ∧ d'.file? path = none ∧ d'.sight path = none := by
  obtain ⟨mode, hlook⟩ := exists_look_of_sight hseen
  have hunlink : d.unlink path = .ok (d.erase (placeOf path)) := by
    simp only [unlink, hlook]
  have hfile := not_isDirectory_of_file (look_eq_ok_iff.1 hlook).2.1
  refine ⟨d.erase (placeOf path), by simp only [removeFile, discard, hunlink], ?_, sight_of_unlink hunlink⟩
  exact file?_eq_none (.inl (at?_erase_self (ne_nil_of_not_isDirectory hfile)))

end Writing

end Disk
end Keyring
