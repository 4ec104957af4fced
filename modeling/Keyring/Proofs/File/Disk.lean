import Keyring.File.Replace
import Keyring.Proofs.File.Lawful
import Keyring.Proofs.File.Route

/-!
# Files on disk keep what is written

A path leads to the same place after a file has been put or deleted, because only directories decide
where a path leads.  Replacing a file through a temporary one therefore leaves the new text under the
path itself.
-/

namespace Keyring

/-- The bytes of a node, if it is a file. -/
def Node.content? : Node → Option ByteArray
  | .file content _ => some content
  | .directory _ => none

/-- Setting permission bits leaves the bytes of a file as they are. -/
@[simp] theorem Node.content?_withMode
    (mode : Nat)
    (node : Node) :
    (node.withMode mode).content? = node.content? := by
  cases node with
  | file content mode' => rfl
  | directory mode' => rfl

namespace Disk

/-- Whether every directory of a tree is also one of another tree. -/
def KeepsDirectories (d d' : Disk) : Prop :=
  ∀ place, d.IsDirectory place → d'.IsDirectory place

section Places

variable {d : Disk} {place other : Place} {node : Node}

/-- A node that has been left out is not met when another place is looked up. -/
theorem lookup_filter_of_ne
    (nodes : List (Place × Node))
    (h : other ≠ place) :
    (nodes.filter fun (p, _) => p != place).lookup other = nodes.lookup other := by
  induction nodes with
  | nil => rfl
  | cons entry nodes ih =>
      obtain ⟨p, node⟩ := entry
      by_cases hp : p = place
      · subst hp
        have hother : (other == p) = false := beq_false_of_ne h
        simp [List.lookup_cons, hother, ih]
      · cases hfound : other == p with
        | true => simp [List.lookup_cons, hp, hfound]
        | false => simp [List.lookup_cons, hp, hfound, ih]

/-- The root is always a directory. -/
theorem isDirectory_root (d : Disk) :
    d.IsDirectory [] :=
  ⟨directoryMode, rfl⟩

/-- A place without a directory is not the root. -/
theorem ne_nil_of_not_isDirectory
    (h : ¬ d.IsDirectory place) :
    place ≠ [] := by
  rintro rfl
  exact h d.isDirectory_root

/-- A node is found where it has been put. -/
theorem at?_put_self
    (node : Node)
    (h : place ≠ []) :
    (d.put place node).at? place = some node := by
  simp [at?, put, h]

/-- Other places are as before when a node has been put. -/
theorem at?_put_of_ne
    (node : Node)
    (h : other ≠ place) :
    (d.put place node).at? other = d.at? other := by
  have hother : (other == place) = false := beq_false_of_ne h
  simp only [at?, put, List.lookup_cons, hother, lookup_filter_of_ne _ h]

/-- Other places are as before when a place has been cleared. -/
theorem at?_erase_of_ne (h : other ≠ place) :
    (d.erase place).at? other = d.at? other := by
  simp only [at?, erase, lookup_filter_of_ne _ h]

/-- Putting a node where there is no directory keeps all directories. -/
theorem keepsDirectories_put
    (node : Node)
    (h : ¬ d.IsDirectory place) :
    KeepsDirectories d (d.put place node) := by
  rintro other ⟨mode, hother⟩
  have hne : other ≠ place := by
    rintro rfl
    exact h ⟨mode, hother⟩
  exact ⟨mode, by rw [at?_put_of_ne node hne, hother]⟩

/-- Setting the permission bits of a node keeps all directories. -/
theorem keepsDirectories_withMode
    (mode : Nat)
    (h : d.at? place = some node) :
    KeepsDirectories d (d.put place (node.withMode mode)) := by
  rintro other ⟨mode', hother⟩
  by_cases hroot : other = []
  · subst hroot
    exact isDirectory_root _
  · by_cases hne : other = place
    · subst hne
      rw [h, Option.some.injEq] at hother
      subst hother
      exact ⟨mode, at?_put_self _ hroot⟩
    · exact ⟨mode', by rw [at?_put_of_ne _ hne, hother]⟩

/-- Moving a node between places without directories keeps all directories. -/
theorem keepsDirectories_move
    {base : Place}
    (node : Node)
    (hbase : ¬ d.IsDirectory base)
    (hplace : ¬ d.IsDirectory place) :
    KeepsDirectories d ((d.erase base).put place node) := by
  rintro other ⟨mode, hother⟩
  have hneBase : other ≠ base := by
    rintro rfl
    exact hbase ⟨mode, hother⟩
  have hnePlace : other ≠ place := by
    rintro rfl
    exact hplace ⟨mode, hother⟩
  exact ⟨mode, by rw [at?_put_of_ne node hnePlace, at?_erase_of_ne hneBase, hother]⟩

/-- A file is no directory. -/
theorem not_isDirectory_of_file
    {content : ByteArray}
    {mode : Nat}
    (h : d.at? place = some (.file content mode)) :
    ¬ d.IsDirectory place := by
  rintro ⟨mode', hdirectory⟩
  rw [h] at hdirectory
  cases hdirectory

end Places

section Paths

variable {d d' : Disk} {path : String} {place : Place}

/-- A path leads to the same place as long as all directories are kept. -/
theorem locate_of_keepsDirectories
    (hkeeps : KeepsDirectories d d')
    (hlocate : d.locate path = .ok place) :
    d'.locate path = .ok place :=
  locate_of_passed hlocate fun above _ => hkeeps above

/-- A path leads to a node at a place; a path that asks for a directory does not lead to a file. -/
theorem look_eq_ok_iff {node : Node} :
    d.look path = .ok (place, node) ↔
      d.locate path = .ok place ∧ d.at? place = some node ∧
        (node.content?.isSome && asksDirectory path) = false := by
  rw [look]
  cases hlocate : d.locate path with
  | error e => simp
  | ok found =>
      simp only [Except.ok.injEq]
      by_cases hplace : found = place
      · subst hplace
        cases hnode : d.at? found with
        | none => simp
        | some other =>
            cases other with
            | directory mode =>
                simp only [Except.ok.injEq, Prod.mk.injEq, true_and, Option.some.injEq]
                exact ⟨fun h => ⟨h, by rw [← h]; rfl⟩, fun h => h.1⟩
            | file content mode =>
                cases hasks : asksDirectory path with
                | true =>
                    simp only [if_true, true_and, Option.some.injEq, reduceCtorEq, false_iff]
                    rintro ⟨rfl, hfile⟩
                    cases hfile
                | false => simp
      · simp only [hplace, false_and, iff_false]
        intro h
        split at h
        · cases h
        · split at h
          · cases h
          · cases h
            exact hplace rfl
        · cases h
          exact hplace rfl

/-- A path leads to what is put in the place of what it led to. -/
theorem look_of_keepsDirectories
    {node node' : Node}
    (hkeeps : KeepsDirectories d d')
    (hlook : d.look path = .ok (place, node))
    (hnode : d'.at? place = some node')
    (hkind : node'.content?.isSome = node.content?.isSome) :
    d'.look path = .ok (place, node') := by
  obtain ⟨hlocate, -, hasks⟩ := look_eq_ok_iff.1 hlook
  exact look_eq_ok_iff.2
    ⟨locate_of_keepsDirectories hkeeps hlocate, hnode, by rw [hkind, hasks]⟩

/-- A path leads to the empty file that has been made under it. -/
theorem look_of_createFile
    {mode : Nat}
    (h : d.createFile path mode = .ok d') :
    ∃ place, d'.look path = .ok (place, .file ByteArray.empty mode) := by
  unfold createFile at h
  split at h
  · cases h
  · next place hlocate =>
      split at h
      · cases h
      · next hnone =>
          split at h
          · cases h
          · next hasks =>
              cases h
              have hdirectory : ¬ d.IsDirectory place := by
                rintro ⟨mode', hmode⟩
                simp [hmode] at hnone
              have hkeeps := keepsDirectories_put (.file ByteArray.empty mode) hdirectory
              refine ⟨place, look_eq_ok_iff.2 ⟨locate_of_keepsDirectories hkeeps hlocate, ?_, ?_⟩⟩
              · exact at?_put_self _ (ne_nil_of_not_isDirectory hdirectory)
              · rw [Bool.eq_false_iff.2 hasks, Bool.and_false]

/-- A path leads to a file with the bytes that have been filled in. -/
theorem look_of_fill
    {content bytes : ByteArray}
    {mode : Nat}
    (hfile : ∃ place, d.look path = .ok (place, .file content mode))
    (h : d.fill path bytes = .ok d') :
    ∃ place, d'.look path = .ok (place, .file bytes mode) := by
  obtain ⟨place, hlook⟩ := hfile
  unfold fill at h
  rw [hlook] at h
  cases h
  obtain ⟨-, hnode, -⟩ := look_eq_ok_iff.1 hlook
  have hfile := not_isDirectory_of_file hnode
  have hput := at?_put_self (d := d) (.file bytes mode) (ne_nil_of_not_isDirectory hfile)
  exact ⟨place, look_of_keepsDirectories (keepsDirectories_put _ hfile) hlook hput rfl⟩

/-- A path leads to the file that has been moved to it. -/
theorem look_of_rename
    {source : String}
    {base : Place}
    {content : ByteArray}
    {mode : Nat}
    (hsource : d.look source = .ok (base, .file content mode))
    (h : d.rename source path = .ok d') :
    ∃ place, d'.look path = .ok (place, .file content mode) := by
  unfold rename at h
  rw [hsource] at h
  cases hlocate : d.locate path with
  | error e =>
      rw [hlocate] at h
      cases h
  | ok place =>
      rw [hlocate] at h
      simp only at h
      split at h
      · cases h
      · split at h
        · cases h
        · next hasks =>
            split at h
            · cases h
            · next hplace =>
                cases h
                have hdirectory : ¬ d.IsDirectory place := by
                  rintro ⟨mode', hmode⟩
                  exact hplace mode' hmode
                have hfile := not_isDirectory_of_file (look_eq_ok_iff.1 hsource).2.1
                -- Neither place held a directory, so the path leads where it did.
                have hkeeps := keepsDirectories_move (.file content mode) hfile hdirectory
                refine ⟨place, look_eq_ok_iff.2 ⟨locate_of_keepsDirectories hkeeps hlocate, ?_, ?_⟩⟩
                · exact at?_put_self _ (ne_nil_of_not_isDirectory hdirectory)
                · rw [Bool.eq_false_iff.2 hasks, Bool.and_false]

/-- A path leads to the same bytes, if any, when permission bits have been set. -/
theorem look_of_setMode
    {mode : Nat}
    (h : d.setMode path mode = .ok d') :
    ∃ place node node', d.look path = .ok (place, node) ∧ d'.look path = .ok (place, node') ∧
      node'.content? = node.content? := by
  unfold setMode at h
  split at h
  · cases h
  · next place node hlook =>
      cases h
      obtain ⟨-, hnode, -⟩ := look_eq_ok_iff.1 hlook
      have hkeeps := keepsDirectories_withMode (mode % modeCount) hnode
      by_cases hroot : place = []
      · -- The root has permission bits of its own, which cannot be set.
        subst hroot
        cases hnode
        exact ⟨[], _, .directory directoryMode, hlook,
          look_of_keepsDirectories hkeeps hlook rfl rfl, rfl⟩
      · have hput := at?_put_self (d := d) (node.withMode (mode % modeCount)) hroot
        have hkind : (node.withMode (mode % modeCount)).content? = node.content? :=
          node.content?_withMode _
        exact ⟨place, node, _, hlook, look_of_keepsDirectories hkeeps hlook hput (by rw [hkind]),
          hkind⟩

/-- A path is present when it leads to something. -/
theorem present_of_look
    {node : Node}
    (h : d.look path = .ok (place, node)) :
    d.present path = true := by
  rw [present, h]
  rfl

/-- The bytes of a file are those of the node that its path leads to. -/
theorem readBytes_of_look
    {node : Node}
    (h : d.look path = .ok (place, node)) :
    d.readBytes path =
      match node.content? with
      | some content => .ok content
      | none => .error .isDirectory := by
  rw [readBytes, h]
  cases node with
  | file content mode => rfl
  | directory mode => rfl

end Paths

section Steps

variable {trouble : Trouble} {s : ReplaceStep} {d d' : Disk} {path text : String}

/-- A step that succeeds does what it is asked to do. -/
theorem step_eq_ok
    {result : Except OsError Disk}
    (h : step trouble s d result = (d', .ok ())) :
    result = .ok d' := by
  unfold step at h
  split at h
  · cases h
  · cases result with
    | error e => cases h
    | ok _ =>
        cases h
        rfl

/-- A step that fails leaves the tree as it is. -/
theorem step_error_eq
    {result : Except OsError Disk}
    {e : OsError}
    (h : step trouble s d result = (d', .error e)) :
    d' = d := by
  unfold step at h
  split at h
  · cases h
    rfl
  · cases result with
    | error e =>
        cases h
        rfl
    | ok _ => cases h

/-- A path leads to a private file with the bytes that have been written privately. -/
theorem look_of_writePrivate
    {bytes : ByteArray}
    (h : writePrivate trouble path bytes d = (d', .ok ())) :
    ∃ place, d'.look path = .ok (place, .file bytes privateMode) := by
  unfold writePrivate at h
  split at h
  · cases h
  · split at h
    · cases h
    · next hcreate =>
        split at h
        · cases h
        · next hfill =>
            have hsync := step_eq_ok h
            cases hsync
            exact look_of_fill (look_of_createFile (step_eq_ok hcreate)) (step_eq_ok hfill)

/-- Replacing a file moves a private file with its text to the path. -/
theorem exists_rename_of_replace
    (h : replace trouble path text d = (.ok (), d')) :
    ∃ (d₁ : Disk) (base : Place),
      d₁.look (Path.temporary path) = .ok (base, .file text.toUTF8 privateMode) ∧
        d₁.rename (Path.temporary path) path = .ok d' := by
  unfold replace at h
  split at h
  · cases h
  · split at h
    · next hwrite =>
        cases h
        unfold writeAndRename at hwrite
        simp only at hwrite
        split at hwrite
        · cases hwrite
        · next hprivate =>
            split at hwrite
            · cases hwrite
            · next hrename =>
                cases hwrite
                obtain ⟨base, hlook⟩ := look_of_writePrivate hprivate
                exact ⟨_, base, hlook, step_eq_ok hrename⟩
    · cases h

/-- A path leads to a private file with the text by which it has been replaced. -/
theorem look_of_replace
    (h : replace trouble path text d = (.ok (), d')) :
    ∃ place, d'.look path = .ok (place, .file text.toUTF8 privateMode) := by
  obtain ⟨d₁, base, hlook, hrename⟩ := exists_rename_of_replace h
  exact look_of_rename hlook hrename

end Steps

/-- What a successful change of permission bits leaves on disk. -/
theorem setMode_of_changeMode
    {path : String}
    {mode : Nat}
    {d d' : Disk}
    (h : changeMode path mode d = (.ok (), d')) :
    d.setMode path mode = .ok d' := by
  unfold changeMode at h
  split at h
  · next hmode =>
      cases h
      exact hmode
  · cases h

instance : LawfulFileSystem Disk where
  ReadableAt _ _ := True
  Readable _ := True
  readableAt _ _ := trivial
  readableAt_of_read _ := trivial
  readableAt_write _ _ _ _ := trivial
  readableAt_setMode _ _ _ _ := trivial
  readable_elapse _ := trivial
  present_elapse _ _ := rfl
  read_elapse _ _ := rfl
  readable_write _ _ _ _ := trivial
  readable_setMode _ _ _ _ := trivial
  present_write := by
    intro path text d d' hwrite
    obtain ⟨place, hlook⟩ := look_of_replace hwrite
    exact present_of_look hlook
  read_write := by
    intro path text d d' _ hwrite
    obtain ⟨place, hlook⟩ := look_of_replace hwrite
    have hbytes : d'.readBytes path = .ok text.toUTF8 := readBytes_of_look hlook
    simp only [FileSystem.read, readText, hbytes, Text.decode?_toUTF8]
    rfl
  present_setMode := by
    intro path mode d d' hmode
    obtain ⟨place, node, node', hbefore, hafter, -⟩ := look_of_setMode (setMode_of_changeMode hmode)
    change d'.present path = d.present path
    rw [present_of_look hafter, present_of_look hbefore]
  read_setMode := by
    intro path mode d d' hmode
    obtain ⟨place, node, node', hbefore, hafter, hcontent⟩ :=
      look_of_setMode (setMode_of_changeMode hmode)
    have hbytes : d'.readBytes path = d.readBytes path := by
      rw [readBytes_of_look hafter, readBytes_of_look hbefore, hcontent]
    simp only [FileSystem.read, readText, hbytes]

end Disk
end Keyring
