import Keyring.Proofs.File.Disk

/-!
# What a call leaves alone

Every call on a file tree changes the files at the places that its paths lead to, and makes directories
where there was nothing; what exists elsewhere is as before.  To replace a file changes that file, the
temporary one beside it and the directories above it, whichever of its steps fails:
`Disk.edited_replace`.  When a step fails, only the temporary one is changed:
`Disk.edited_replace_of_error`.
-/

namespace Keyring

/-- The places at which directories are made for components, if there are none. -/
def Place.made (base : Place) : List String → List Place
  | [] => []
  | name :: rest =>
      if name = "." ∨ name = ".." then Place.made (Place.next base name) rest
      else Place.next base name :: Place.made (Place.next base name) rest

namespace Disk

/-- The places at which directories are made before a file is written, if there are none. -/
def madeFor (path : String) : List Place :=
  match Path.parent? path with
  | none => []
  | some parent => Place.made (origin parent) (Path.components parent)

/-- What can be seen at a place without its permission bits: the bytes of a file, or a directory. -/
def view (d : Disk) (place : Place) : Option (Option ByteArray) :=
  (d.at? place).map Node.content?

/-- Whether a tree has become another by putting and deleting files at some places and by making
directories at places where there was nothing. -/
structure Edited (files dirs : List Place) (d d' : Disk) : Prop where
  elsewhere :
    ∀ place ∉ files, d'.at? place = d.at? place ∨
      (place ∈ dirs ∧ d.at? place = none ∧ d'.at? place = some (.directory directoryMode))
  keeps : KeepsDirectories d d'
  within : ∀ place, d'.IsDirectory place → d.IsDirectory place ∨ place ∈ dirs

/-- Whether what can be seen in a tree differs from another at most in some files and in some directories
that were missing. -/
structure Changed (files dirs : List Place) (d d' : Disk) : Prop where
  elsewhere :
    ∀ place ∉ files, d'.view place = d.view place ∨
      (place ∈ dirs ∧ d.view place = none ∧ d'.view place = some none)
  keeps : KeepsDirectories d d'
  within : ∀ place, d'.IsDirectory place → d.IsDirectory place ∨ place ∈ dirs

section Places

variable {d d' d'' : Disk} {place : Place} {files dirs : List Place}

theorem isDirectory_iff_view :
    d.IsDirectory place ↔ d.view place = some none := by
  rw [IsDirectory, view]
  cases d.at? place with
  | none => simp
  | some node =>
      cases node with
      | file content mode => simp [Node.content?]
      | directory mode => simp [Node.content?]

/-- A tree is changed in nothing if the same can be seen everywhere. -/
theorem changed_of_view (h : ∀ place, d'.view place = d.view place) :
    Changed files dirs d d' where
  elsewhere place _ := .inl (h place)
  keeps place hdirectory := by
    rwa [isDirectory_iff_view, h place, ← isDirectory_iff_view]
  within place hdirectory := by
    left
    rwa [isDirectory_iff_view, ← h place, ← isDirectory_iff_view]

theorem Changed.refl
    (files dirs : List Place)
    (d : Disk) :
    Changed files dirs d d :=
  changed_of_view fun _ => rfl

theorem Changed.trans
    (h : Changed files dirs d d')
    (h' : Changed files dirs d' d'') :
    Changed files dirs d d'' where
  elsewhere place hplace := by
    rcases h.elsewhere place hplace with hsame | ⟨hmade, hnone, hdirectory⟩
    · rw [← hsame]
      exact h'.elsewhere place hplace
    · rcases h'.elsewhere place hplace with hsame' | ⟨-, hnone', -⟩
      · exact .inr ⟨hmade, hnone, by rw [hsame', hdirectory]⟩
      · rw [hdirectory] at hnone'
        cases hnone'
  keeps place hdirectory := h'.keeps place (h.keeps place hdirectory)
  within place hdirectory := by
    rcases h'.within place hdirectory with hbefore | hmade
    · exact h.within place hbefore
    · exact .inr hmade

/-- What has been edited looks different at most where it has been edited. -/
theorem Edited.changed (h : Edited files dirs d d') :
    Changed files dirs d d' where
  elsewhere place hplace := by
    rcases h.elsewhere place hplace with hsame | ⟨hmade, hnone, hdirectory⟩
    · exact .inl (by rw [view, view, hsame])
    · exact .inr ⟨hmade, by rw [view, hnone]; rfl, by rw [view, hdirectory]; rfl⟩
  keeps := h.keeps
  within := h.within

/-- What exists at a place that is not edited is there afterwards. -/
theorem Edited.at?_of_some
    {node : Node}
    (h : Edited files dirs d d')
    (hplace : place ∉ files)
    (hnode : d.at? place = some node) :
    d'.at? place = some node := by
  rcases h.elsewhere place hplace with hsame | ⟨-, hnone, -⟩
  · rw [hsame, hnode]
  · rw [hnode] at hnone
    cases hnone

theorem Edited.refl
    (files dirs : List Place)
    (d : Disk) :
    Edited files dirs d d where
  elsewhere _ _ := .inl rfl
  keeps _ hdirectory := hdirectory
  within _ hdirectory := .inl hdirectory

theorem Edited.trans
    (h : Edited files dirs d d')
    (h' : Edited files dirs d' d'') :
    Edited files dirs d d'' where
  elsewhere place hplace := by
    rcases h.elsewhere place hplace with hsame | ⟨hmade, hnone, hdirectory⟩
    · rw [← hsame]
      exact h'.elsewhere place hplace
    · exact .inr ⟨hmade, hnone, h'.at?_of_some hplace hdirectory⟩
  keeps place hdirectory := h'.keeps place (h.keeps place hdirectory)
  within place hdirectory := by
    rcases h'.within place hdirectory with hbefore | hmade
    · exact h.within place hbefore
    · exact .inr hmade

theorem Edited.mono
    {files' dirs' : List Place}
    (h : Edited files dirs d d')
    (hfiles : files ⊆ files')
    (hdirs : dirs ⊆ dirs') :
    Edited files' dirs' d d' where
  elsewhere place hplace := by
    rcases h.elsewhere place fun hfile => hplace (hfiles hfile) with hsame | ⟨hmade, hnodes⟩
    · exact .inl hsame
    · exact .inr ⟨hdirs hmade, hnodes⟩
  keeps := h.keeps
  within place hdirectory := (h.within place hdirectory).imp_right fun hmade => hdirs hmade

/-- Where there was and is no directory, a file may have come or gone. -/
theorem edited_of_ne
    (h : ∀ other ≠ place, d'.at? other = d.at? other)
    (hbefore : ¬ d.IsDirectory place)
    (hafter : ¬ d'.IsDirectory place) :
    Edited [place] [] d d' where
  elsewhere other hother := .inl (h other (by simpa using hother))
  keeps other hdirectory := by
    obtain ⟨mode, hmode⟩ := hdirectory
    refine ⟨mode, ?_⟩
    rw [h other (by rintro rfl; exact hbefore ⟨mode, hmode⟩), hmode]
  within other hdirectory := by
    obtain ⟨mode, hmode⟩ := hdirectory
    refine .inl ⟨mode, ?_⟩
    rw [← h other (by rintro rfl; exact hafter ⟨mode, hmode⟩), hmode]

theorem edited_put
    {content : ByteArray}
    {mode : Nat}
    (h : ¬ d.IsDirectory place) :
    Edited [place] [] d (d.put place (.file content mode)) :=
  edited_of_ne (fun _ => at?_put_of_ne _) h
    (not_isDirectory_of_file (at?_put_self _ (ne_nil_of_not_isDirectory h)))

theorem at?_erase_self (h : place ≠ []) :
    (d.erase place).at? place = none := by
  simp only [at?, erase, List.isEmpty_iff, h, if_false, List.lookup_eq_none_iff]
  rintro ⟨other, node⟩ hentry
  rw [bne_comm]
  exact (List.mem_filter.1 hentry).2

theorem edited_erase (h : ¬ d.IsDirectory place) :
    Edited [place] [] d (d.erase place) := by
  refine edited_of_ne (fun _ => at?_erase_of_ne) h ?_
  rintro ⟨mode, hmode⟩
  rw [at?_erase_self (ne_nil_of_not_isDirectory h)] at hmode
  cases hmode

theorem edited_putDirectory (h : d.at? place = none) :
    Edited [] [place] d (d.put place (.directory directoryMode)) := by
  have hnot : ¬ d.IsDirectory place := by
    rintro ⟨mode', hmode⟩
    rw [h] at hmode
    cases hmode
  refine ⟨fun other _ => ?_, keepsDirectories_put _ hnot, fun other hdirectory => ?_⟩
  · by_cases hother : other = place
    · subst hother
      exact .inr ⟨List.mem_singleton_self _, h, at?_put_self _ (ne_nil_of_not_isDirectory hnot)⟩
    · exact .inl (at?_put_of_ne _ hother)
  · by_cases hother : other = place
    · exact .inr (List.mem_singleton.2 hother)
    · rw [IsDirectory, at?_put_of_ne _ hother] at hdirectory
      exact .inl hdirectory

end Places

section Paths

variable {d : Disk} {path : String} {place : Place}

theorem eq_placeOf_of_look
    {node : Node}
    (h : d.look path = .ok (place, node)) :
    place = placeOf path :=
  eq_placeOf_of_locate (look_eq_ok_iff.1 h).1

end Paths

section Calls

variable {d d' : Disk} {path : String} {trouble : Trouble} {files dirs : List Place}

theorem edited_makePlaces
    (d : Disk)
    (base : Place)
    (names : List String) :
    Edited [] (Place.made base names) d (d.makePlaces base names).1 := by
  induction names generalizing d base with
  | nil => exact Edited.refl _ _ d
  | cons name names ih =>
      rw [makePlaces, Place.made, Place.next]
      by_cases hdot : name = "."
      · rw [if_pos hdot, if_pos hdot, if_pos (.inl hdot)]
        exact ih d base
      · rw [if_neg hdot, if_neg hdot]
        by_cases hdots : name = ".."
        · rw [if_pos hdots, if_pos hdots, if_pos (.inr hdots)]
          exact ih d base.dropLast
        · rw [if_neg hdots, if_neg hdots, if_neg (by simp [hdot, hdots])]
          split
          · exact Edited.refl _ _ d
          · simp only
            split
            · exact (ih d _).mono (List.Subset.refl _) (List.subset_cons_self _ _)
            · exact Edited.refl _ _ d
            · next hnone =>
                have hput := @edited_putDirectory d _ hnone
                exact (hput.mono (List.Subset.refl _) (by simp)).trans
                  ((ih _ _).mono (List.Subset.refl _) (List.subset_cons_self _ _))

theorem edited_makeParents
    (trouble : Trouble)
    (path : String)
    (d : Disk) :
    Edited [] (madeFor path) d (makeParents trouble path d).1 := by
  unfold makeParents madeFor
  cases Path.parent? path with
  | none => exact Edited.refl _ _ d
  | some parent =>
      have hmade : Edited [] (Place.made (origin parent) (Path.components parent)) d
          (d.makeDirectories parent).1 := by
        rw [makeDirectories]
        split
        · exact Edited.refl _ _ d
        · split
          · exact Edited.refl _ _ d
          · exact edited_makePlaces d _ _
      simp only
      split
      · exact Edited.refl _ _ d
      · split
        · exact Edited.refl _ _ d
        · split
          · next h => rwa [h] at hmade
          · next h => rwa [h] at hmade

theorem edited_step
    {s : ReplaceStep}
    {result : Except OsError Disk}
    (h : ∀ d', result = .ok d' → Edited files dirs d d') :
    Edited files dirs d (step trouble s d result).1 := by
  unfold step
  split
  · exact Edited.refl _ _ d
  · cases result with
    | error e => exact Edited.refl _ _ d
    | ok d' => exact h d' rfl

/-- Two calls, of which the second is made when the first succeeds. -/
theorem edited_andThen
    (first : Disk × Except OsError Unit)
    (second : Disk → Disk × Except OsError Unit) :
    Edited files dirs d first.1 → (∀ d', Edited files dirs d' (second d').1) →
      Edited files dirs d
        (match first with
          | (d, .error e) => (d, .error e)
          | (d, .ok ()) => second d : Disk × Except OsError Unit).1 := by
  intro hfirst hsecond
  obtain ⟨d', _ | _⟩ := first
  · exact hfirst
  · exact hfirst.trans (hsecond d')

theorem edited_unlink (h : d.unlink path = .ok d') :
    Edited [placeOf path] [] d d' := by
  unfold unlink at h
  split at h
  · cases h
  · cases h
  · next place content mode hlook =>
      cases h
      obtain rfl := eq_placeOf_of_look hlook
      exact edited_erase (not_isDirectory_of_file (look_eq_ok_iff.1 hlook).2.1)

theorem edited_discard (h : d.discard path = .ok d') :
    Edited [placeOf path] [] d d' := by
  unfold discard at h
  split at h
  · cases h
    exact Edited.refl _ _ d
  · exact edited_unlink h

theorem edited_createFile
    {mode : Nat}
    (h : d.createFile path mode = .ok d') :
    Edited [placeOf path] [] d d' := by
  unfold createFile at h
  split at h
  · cases h
  · next place hlocate =>
      split at h
      · cases h
      · next hnone =>
          split at h
          · cases h
          · cases h
            obtain rfl := eq_placeOf_of_locate hlocate
            refine edited_put ?_
            rintro ⟨mode', hmode⟩
            simp [hmode] at hnone

theorem edited_fill
    {bytes : ByteArray}
    (h : d.fill path bytes = .ok d') :
    Edited [placeOf path] [] d d' := by
  unfold fill at h
  split at h
  · cases h
  · cases h
  · next place content mode hlook =>
      cases h
      obtain rfl := eq_placeOf_of_look hlook
      exact edited_put (not_isDirectory_of_file (look_eq_ok_iff.1 hlook).2.1)

theorem edited_rename
    {source : String}
    (h : d.rename source path = .ok d') :
    Edited [placeOf path, placeOf source] [] d d' := by
  unfold rename at h
  split at h
  · cases h
  · cases h
  · cases h
  · next base content mode place hlook hlocate =>
      split at h
      · cases h
      · split at h
        · cases h
        · split at h
          · cases h
          · next hplace =>
              cases h
              obtain rfl := eq_placeOf_of_look hlook
              obtain rfl := eq_placeOf_of_locate hlocate
              have hfile := not_isDirectory_of_file (look_eq_ok_iff.1 hlook).2.1
              have herased := edited_erase hfile
              refine (herased.mono (by simp) (List.Subset.refl _)).trans
                ((edited_put ?_).mono (by simp) (List.Subset.refl _))
              intro hdirectory
              rcases herased.within _ hdirectory with ⟨mode', hmode⟩ | hmade
              · exact hplace mode' hmode
              · cases hmade

/-- Permission bits cannot be seen. -/
theorem changed_setMode
    {mode : Nat}
    (h : d.setMode path mode = .ok d') :
    Changed files dirs d d' := by
  unfold setMode at h
  split at h
  · cases h
  · next place node hlook =>
      cases h
      refine changed_of_view fun other => ?_
      have hnode := (look_eq_ok_iff.1 hlook).2.1
      by_cases hroot : other = []
      · subst hroot
        rfl
      · by_cases hother : other = place
        · subst hother
          rw [view, view, at?_put_self _ hroot, hnode, Option.map_some, Option.map_some,
            Node.content?_withMode]
        · rw [view, view, at?_put_of_ne _ hother]

theorem edited_writePrivate
    (trouble : Trouble)
    (path : String)
    (bytes : ByteArray)
    (d : Disk) :
    Edited [placeOf path] [] d (writePrivate trouble path bytes d).1 := by
  unfold writePrivate
  refine edited_andThen _ _ (edited_step fun _ h => edited_discard h) fun d₁ => ?_
  refine edited_andThen _ _ (edited_step fun _ h => edited_createFile h) fun d₂ => ?_
  refine edited_andThen _ _ (edited_step fun _ h => edited_fill h) fun d₃ => ?_
  refine edited_step fun d₄ h => ?_
  cases h
  exact Edited.refl _ _ d₃

/-- As long as nothing has been renamed, only the temporary file is changed. -/
theorem edited_writeAndRename_of_error
    {bytes : ByteArray}
    {fault : FileFault}
    (h : writeAndRename trouble path bytes d = (d', .error fault)) :
    Edited [placeOf (Path.temporary path)] [] d d' := by
  have hwrite := edited_writePrivate trouble (Path.temporary path) bytes d
  unfold writeAndRename at h
  simp only at h
  split at h
  · next hprivate =>
      cases h
      rwa [hprivate] at hwrite
  · next d₁ hprivate =>
      rw [hprivate] at hwrite
      split at h
      · next hrename =>
          cases h
          rwa [← step_error_eq hrename] at hwrite
      · cases h

theorem edited_writeAndRename
    (trouble : Trouble)
    (path : String)
    (bytes : ByteArray)
    (d : Disk) :
    Edited [placeOf path, placeOf (Path.temporary path)] [] d
      (writeAndRename trouble path bytes d).1 := by
  have hwrite : Edited [placeOf path, placeOf (Path.temporary path)] [] d
      (writePrivate trouble (Path.temporary path) bytes d).1 :=
    (edited_writePrivate trouble (Path.temporary path) bytes d).mono (by simp)
      (List.Subset.refl _)
  unfold writeAndRename
  simp only
  split
  · next h => rwa [h] at hwrite
  · next d₁ h =>
      rw [h] at hwrite
      have hrename := hwrite.trans <|
        @edited_step d₁ trouble _ _ .rename (d₁.rename (Path.temporary path) path) fun _ h =>
          edited_rename h
      split
      · next h => rwa [h] at hrename
      · next h => rwa [h] at hrename

/-- What is deleted after a failure is the temporary file. -/
theorem edited_discardNew
    (trouble : Trouble)
    (path : String)
    (d : Disk) :
    Edited [placeOf (Path.temporary path)] [] d (d.discardNew trouble path) :=
  edited_step fun _ h => edited_unlink h

/-- Replacing a file changes the temporary file and the directories above it, when it fails. -/
theorem edited_replace_of_error
    {text : String}
    {fault : FileFault}
    (h : replace trouble path text d = (.error fault, d')) :
    Edited [placeOf (Path.temporary path)] (madeFor path) d d' := by
  have hparents := (edited_makeParents trouble path d).mono
    (List.nil_subset [placeOf (Path.temporary path)]) (List.Subset.refl _)
  unfold replace at h
  split at h
  · next hmade =>
      cases h
      rwa [hmade] at hparents
  · next d₁ hmade =>
      rw [hmade] at hparents
      split at h
      · cases h
      · next d₂ _ hwrite =>
          cases h
          have htouched := (edited_writeAndRename_of_error hwrite).trans
            (edited_discardNew trouble path d₂)
          exact hparents.trans (htouched.mono (List.Subset.refl _) (List.nil_subset _))

/-- Replacing a file changes the file, the one beside it and the directories above it, whatever
fails. -/
theorem edited_replace
    (trouble : Trouble)
    (path text : String)
    (d : Disk) :
    Edited [placeOf path, placeOf (Path.temporary path)] (madeFor path) d
      (replace trouble path text d).2 := by
  have hparents := (edited_makeParents trouble path d).mono
    (List.nil_subset [placeOf path, placeOf (Path.temporary path)]) (List.Subset.refl _)
  cases hreplace : replace trouble path text d with
  | mk result after =>
      cases result with
      | error fault =>
          exact (edited_replace_of_error hreplace).mono (by simp) (List.Subset.refl _)
      | ok =>
          unfold replace at hreplace
          split at hreplace
          · cases hreplace
          · next d₁ hmade =>
              -- The directories are made before any file is touched, so the two changes do not mix.
              rw [hmade] at hparents
              have hwrite := edited_writeAndRename trouble path text.toUTF8 d₁
              split at hreplace
              · next hwritten =>
                  cases hreplace
                  rw [hwritten] at hwrite
                  exact hparents.trans (hwrite.mono (List.Subset.refl _) (List.nil_subset _))
              · cases hreplace

theorem changed_replace
    (trouble : Trouble)
    (path text : String)
    (d : Disk) :
    Changed [placeOf path, placeOf (Path.temporary path)] (madeFor path) d
      (replace trouble path text d).2 :=
  (edited_replace trouble path text d).changed

theorem changed_removeFile
    (path : String)
    (d : Disk) :
    Changed [placeOf path] [] d (removeFile path d).2 := by
  unfold removeFile
  split
  · next h => exact (edited_discard h).changed
  · exact Changed.refl _ _ d

theorem changed_changeMode
    (path : String)
    (mode : Nat)
    (d : Disk) :
    Changed files dirs d (changeMode path mode d).2 := by
  unfold changeMode
  split
  · next h => exact changed_setMode h
  · exact Changed.refl _ _ d

end Calls

end Disk
end Keyring
