import Keyring.Proofs.File.Temporary

/-!
# Replacing a file as a whole

A file is replaced through its temporary file, so that a failure leaves the old one: this is so for every
file but one that is its own temporary file.  There the old file is what is deleted before anything is
written, and deleted once more after a failure: `Disk.replace_atomic_unless_ownTemporary`.
-/

namespace Keyring

namespace Disk

open Keyring.Path

/-- What a tree holds after a file has been replaced. -/
structure Replaced (path text : String) (d : Disk) : Prop where
  content : d.look path = .ok (placeOf path, .file text.toUTF8 privateMode)
  cleared : ¬ OwnTemporary path → d.at? (placeOf (Path.temporary path)) = none

/-- Whether what exists at the end of a path is as before, or is a directory that has been made there on
the way through it. -/
def Kept (path : String) (d d' : Disk) : Prop :=
  d'.at? (placeOf path) = d.at? (placeOf path) ∨
    (".." ∈ components path ∧ d.at? (placeOf path) = none ∧
      d'.at? (placeOf path) = some (.directory directoryMode))

section Failures

variable {trouble : Trouble} {path text : String} {d d' : Disk} {files : List Place} {fault : FileFault}

/-- What is not edited is kept, up to a directory on the way. -/
theorem Edited.kept
    (h : Edited files (madeFor path) d d')
    (hpath : placeOf path ∉ files) :
    Kept path d d' := by
  rcases h.elsewhere _ hpath with hsame | ⟨hmade, hnone, hdirectory⟩
  · exact .inl hsame
  · exact .inr ⟨mem_components_of_mem_madeFor hmade, hnone, hdirectory⟩

/-- A failure keeps a file that is not its own temporary file. -/
theorem kept_of_error
    (h : replace trouble path text d = (.error fault, d'))
    (hother : ¬ OwnTemporary path) :
    Kept path d d' :=
  (edited_replace_of_error h).kept (by simpa [OwnTemporary, eq_comm] using hother)

/-- A failure to make the directories keeps every file. -/
theorem kept_of_makeParents_error
    (h : (makeParents trouble path d).2 = .error fault) :
    Kept path d (replace trouble path text d).2 := by
  have hparents := edited_makeParents trouble path d
  unfold replace
  split
  · next hmade =>
      rw [hmade] at hparents
      exact hparents.kept (by simp)
  · next hmade =>
      rw [hmade] at h
      cases h

/-- An edited file is still no directory. -/
theorem Edited.not_isDirectory
    {place : Place}
    (h : Edited files [] d d')
    (hplace : ¬ d.IsDirectory place) :
    ¬ d'.IsDirectory place := fun hdirectory =>
  hplace ((h.within place hdirectory).resolve_right (by simp))

/-- Nothing exists where a file has been deleted or has not been found. -/
theorem at?_discardNew_eq_none
    {place : Place}
    (htrouble : trouble .discardNew = none)
    (hlocate : d.locate (Path.temporary path) = .ok place)
    (hasks : asksDirectory (Path.temporary path) = false)
    (hplace : ¬ d.IsDirectory place) :
    (d.discardNew trouble path).at? place = none := by
  unfold discardNew step
  rw [htrouble]
  cases hnode : d.at? place with
  | none =>
      have hlook : d.look (Path.temporary path) = .error .notFound := by
        simp only [look, hlocate, hnode]
      simp only [unlink, hlook, hnode]
  | some node =>
      cases node with
      | directory mode => exact absurd ⟨mode, hnode⟩ hplace
      | file content mode =>
          have hlook := look_eq_ok_iff.2 ⟨hlocate, hnode, by rw [hasks, Bool.and_false]⟩
          simp only [unlink, hlook]
          exact at?_erase_self (ne_nil_of_not_isDirectory hplace)

/-- A failure deletes the file that is found under the path of the temporary file. -/
theorem at?_temporary_of_error
    {place : Place}
    {content : ByteArray}
    {mode : Nat}
    (h : replace trouble path text d = (.error fault, d'))
    (hparents : (makeParents trouble path d).2 = .ok ())
    (htrouble : trouble .discardNew = none)
    (hlook : d.look (Path.temporary path) = .ok (place, .file content mode)) :
    d'.at? place = none := by
  obtain ⟨hlocate, hnode, hasks⟩ := look_eq_ok_iff.1 hlook
  have hmade := edited_makeParents trouble path d
  unfold replace at h
  split at h
  · next hfailed =>
      rw [hfailed] at hparents
      cases hparents
  · next d₁ hdone =>
      rw [hdone] at hmade
      split at h
      · cases h
      · next d₂ _ hwrite =>
          cases h
          -- Whatever has been written, there is still no directory at the place of the file.
          have hwritten := edited_writeAndRename_of_error hwrite
          have hfile := not_isDirectory_of_file (hmade.at?_of_some (by simp) hnode)
          refine at?_discardNew_eq_none htrouble ?_ ?_ (hwritten.not_isDirectory hfile)
          · exact locate_of_keepsDirectories hwritten.keeps
              (locate_of_keepsDirectories hmade.keeps hlocate)
          · simpa [Node.content?] using hasks

end Failures

section Success

variable {trouble : Trouble} {path text : String} {d d' : Disk}

/-- Nothing exists where a file has been moved away from. -/
theorem at?_of_rename
    {source : String}
    (h : d.rename source path = .ok d')
    (hne : placeOf source ≠ placeOf path) :
    d'.at? (placeOf source) = none := by
  unfold rename at h
  split at h
  · cases h
  · cases h
  · cases h
  · next base content mode place hlook hlocate =>
      obtain rfl := eq_placeOf_of_look hlook
      obtain rfl := eq_placeOf_of_locate hlocate
      have hfile := not_isDirectory_of_file (look_eq_ok_iff.1 hlook).2.1
      split at h
      · cases h
      · split at h
        · cases h
        · split at h
          · cases h
          · cases h
            rw [at?_put_of_ne _ hne, at?_erase_self (ne_nil_of_not_isDirectory hfile)]

/-- A file that has been replaced is private, holds the text and has left no temporary file. -/
theorem replaced_of_ok (h : replace trouble path text d = (.ok (), d')) :
    Replaced path text d' := by
  obtain ⟨place, hlook⟩ := look_of_replace h
  obtain rfl := eq_placeOf_of_look hlook
  obtain ⟨d₁, base, -, hrename⟩ := exists_rename_of_replace h
  exact ⟨hlook, fun hother => at?_of_rename hrename hother⟩

end Success

/-- Replacing a file changes nothing but the file, its temporary file and directories that were missing.
When it succeeds, the file holds the text, only its owner may use it, and no other file is left behind.
When it fails, the file is kept, except that a file which is its own temporary file is kept only if the
failure comes from the directories above it: otherwise it is gone as soon as the cleaning up
succeeds. -/
theorem replace_atomic_unless_ownTemporary
    (trouble : Trouble)
    (path text : String)
    (d : Disk) :
    (∀ place, place ≠ placeOf path → place ≠ placeOf (Path.temporary path) →
      (replace trouble path text d).2.at? place = d.at? place ∨
        (place ∈ madeFor path ∧ d.at? place = none ∧
          (replace trouble path text d).2.at? place = some (.directory directoryMode))) ∧
    ((replace trouble path text d).1 = .ok () →
      Replaced path text (replace trouble path text d).2) ∧
    (∀ fault, (replace trouble path text d).1 = .error fault →
      (OwnTemporary path → ∃ e, (makeParents trouble path d).2 = .error e) →
        Kept path d (replace trouble path text d).2) ∧
    (∀ fault content mode, (replace trouble path text d).1 = .error fault →
      (makeParents trouble path d).2 = .ok () →
      trouble .discardNew = none →
      d.look (Path.temporary path) = .ok (placeOf path, .file content mode) →
        (replace trouble path text d).2.at? (placeOf path) = none) := by
  refine ⟨fun place hpath htemporary => ?_, fun hok => ?_, fun fault herror hparents => ?_,
    fun fault content mode herror hparents htrouble hlook => ?_⟩
  · exact (edited_replace trouble path text d).elsewhere place (by simp [hpath, htemporary])
  · exact replaced_of_ok (Prod.ext hok rfl)
  · by_cases hown : OwnTemporary path
    · obtain ⟨e, he⟩ := hparents hown
      exact kept_of_makeParents_error he
    · exact kept_of_error (Prod.ext herror rfl) hown
  · exact at?_temporary_of_error (Prod.ext herror rfl) hparents htrouble hlook

/-- A tree with a file and what an interrupted replacement has left beside it. -/
def leftover : Disk :=
  ⟨[(["keys.json"], .file "old".toUTF8 fileMode), (["keys.tmp"], .file "left".toUTF8 fileMode)]⟩

/-- A disk to which nothing can be brought. -/
def unsynced : Trouble := fun s => if s = .sync then some .permissionDenied else none

theorem replace_atomic_unless_ownTemporary_leftover :
    Replaced "/keys.json" "new" (replace noTrouble "/keys.json" "new" leftover).2 ∧
    (replace noTrouble "/keys.json" "new" leftover).2.at? ["keys.tmp"] = none ∧
    (replace unsynced "/keys.json" "new" leftover).1 =
      .error (.system "write /keys.tmp" .permissionDenied) ∧
    Kept "/keys.json" leftover (replace unsynced "/keys.json" "new" leftover).2 ∧
    (replace unsynced "/keys.tmp" "new" leftover).2.at? ["keys.tmp"] = none := by
  obtain ⟨-, hok, -, -⟩ :=
    replace_atomic_unless_ownTemporary noTrouble "/keys.json" "new" leftover
  obtain ⟨-, -, hkept, -⟩ :=
    replace_atomic_unless_ownTemporary unsynced "/keys.json" "new" leftover
  obtain ⟨-, -, -, hgone⟩ :=
    replace_atomic_unless_ownTemporary unsynced "/keys.tmp" "new" leftover
  have hother : ¬ OwnTemporary "/keys.json" := by decide +kernel
  have hreplaced := hok (by decide +kernel)
  refine ⟨hreplaced, hreplaced.cleared hother, by decide +kernel, ?_, ?_⟩
  · exact hkept (.system "write /keys.tmp" .permissionDenied) (by decide +kernel)
      fun hown => absurd hown hother
  · exact hgone (.system "write /keys.tmp" .permissionDenied) "left".toUTF8 fileMode
      (by decide +kernel) rfl rfl rfl

/-- A file that is its own temporary file is gone after a failure, and where nothing existed there may be
a directory. -/
theorem lost_ownTemporary :
    ((replace unsynced "/keys.tmp" "new" leftover).1 =
        .error (.system "write /keys.tmp" .permissionDenied) ∧
      (leftover.at? (placeOf "/keys.tmp")).isSome ∧
      ((replace unsynced "/keys.tmp" "new" leftover).2.at? (placeOf "/keys.tmp")).isNone) ∧
    ((replace noTrouble "/keys.tmp/" "new" leftover).1 =
        .error (.system "persist /keys.tmp/" .notDirectory) ∧
      (leftover.at? (placeOf "/keys.tmp/")).isSome ∧
      ((replace noTrouble "/keys.tmp/" "new" leftover).2.at? (placeOf "/keys.tmp/")).isNone) ∧
    ((replace noTrouble "/a/../a" "new" empty).1 =
        .error (.system "persist /a/../a" .isDirectory) ∧
      (empty.at? (placeOf "/a/../a")).isNone ∧
      ((replace noTrouble "/a/../a" "new" empty).2.at? (placeOf "/a/../a")).isSome) := by
  decide +kernel

end Disk
end Keyring
