import Keyring.Host.Machine
import Keyring.Proofs.File.Frame

/-!
# Trees side by side

Two trees can have the same directories and the same files, with the same permission bits, and differ in the
bytes of some files.  No call tells them apart, except by the bytes that it reads: where a path leads, whether
a call is refused and why, and what exists afterwards depend on nothing else.

Which bytes may differ, and where, is a parameter.  Trees stay side by side as long as what is written in the
one and in the other may differ in that way at the places to which it is written: `Disk.Like.replace`.
-/

namespace Keyring

/-- Two results that are the same error, or two values that are related. -/
inductive Likewise {ε α β : Type} (R : α → β → Prop) : Except ε α → Except ε β → Prop
  | error
      (e : ε) :
      Likewise R (.error e) (.error e)
  | ok
      {a : α}
      {b : β}
      (h : R a b) :
      Likewise R (.ok a) (.ok b)

/-- Two nodes of the same kind, with the same permission bits and with related bytes. -/
inductive Node.Like (rel : ByteArray → ByteArray → Prop) : Node → Node → Prop
  | file
      {content content' : ByteArray}
      (mode : Nat)
      (h : rel content content') :
      Like rel (.file content mode) (.file content' mode)
  | directory
      (mode : Nat) :
      Like rel (.directory mode) (.directory mode)

theorem Node.Like.withMode
    {rel : ByteArray → ByteArray → Prop}
    {node node' : Node}
    (h : Like rel node node')
    (mode : Nat) :
    Like rel (node.withMode mode) (node'.withMode mode) := by
  cases h with
  | file _ hcontent => exact .file mode hcontent
  | directory _ => exact .directory mode

namespace Disk

/-- Two trees with the same at every place, but for the bytes of files, which are related. -/
def Like (rel : Place → ByteArray → ByteArray → Prop) (d d' : Disk) : Prop :=
  ∀ place, Option.Rel (Node.Like (rel place)) (d.at? place) (d'.at? place)

/-- Two calls that end in the same way and leave trees side by side. -/
def Ends
    {ε : Type}
    (rel : Place → ByteArray → ByteArray → Prop)
    (r r' : Disk × Except ε Unit) :
    Prop :=
  r.2 = r'.2 ∧ Like rel r.1 r'.1

variable {rel rel' : Place → ByteArray → ByteArray → Prop} {d d' : Disk}
variable {place base : Place} {path : String} {node node' : Node} {bytes bytes' : ByteArray}

namespace Like

theorem refl
    (hrefl : ∀ place content, rel place content content)
    (d : Disk) :
    Like rel d d := by
  intro place
  cases d.at? place with
  | none => exact .none
  | some node =>
      cases node with
      | file content mode => exact .some (.file mode (hrefl place content))
      | directory mode => exact .some (.directory mode)

/-- The bytes that differ can be compared in another way, file by file. -/
theorem imp
    (h : Like rel d d')
    (hrel : ∀ place content content' mode,
      d.at? place = some (.file content mode) → d'.at? place = some (.file content' mode) →
        rel place content content' → rel' place content content') :
    Like rel' d d' := by
  intro place
  have hplace := h place
  generalize hfound : d.at? place = found, hfound' : d'.at? place = found' at hplace
  cases hplace with
  | none => exact .none
  | some hnode =>
      cases hnode with
      | file mode hcontent => exact .some (.file mode (hrel place _ _ mode hfound hfound' hcontent))
      | directory mode => exact .some (.directory mode)

/-- Files at the same place have related bytes. -/
theorem content
    {content content' : ByteArray}
    {mode mode' : Nat}
    (h : Like rel d d')
    (hfile : d.at? place = some (.file content mode))
    (hfile' : d'.at? place = some (.file content' mode')) :
    rel place content content' := by
  have hplace := h place
  rw [hfile, hfile'] at hplace
  cases hplace with
  | some hnode =>
      cases hnode with
      | file _ hcontent => exact hcontent

section Looking

theorem walk_eq
    (h : Like rel d d')
    (base : Place)
    (names : List String) :
    d.walk base names = d'.walk base names := by
  induction names generalizing base with
  | nil => rfl
  | cons name names ih =>
      have hbase := h base
      unfold walk
      generalize d.at? base = found, d'.at? base = found' at hbase
      cases hbase with
      | none => rfl
      | some hnode =>
          cases hnode with
          | file _ _ => rfl
          | directory _ => simp only [ih]

/-- A path leads to the same place in both. -/
theorem locate_eq
    (h : Like rel d d')
    (path : String) :
    d.locate path = d'.locate path := by
  simp only [locate, h.walk_eq]

/-- A path leads to nodes of the same kind. -/
theorem look
    (h : Like rel d d')
    (path : String) :
    Likewise (fun a b => a.1 = placeOf path ∧ b.1 = placeOf path ∧
      Node.Like (rel (placeOf path)) a.2 b.2) (d.look path) (d'.look path) := by
  unfold Disk.look
  rw [h.locate_eq path]
  cases hlocate : d'.locate path with
  | error e => exact .error e
  | ok place =>
      obtain rfl := eq_placeOf_of_locate hlocate
      have hplace := h (placeOf path)
      simp only
      generalize d.at? (placeOf path) = found, d'.at? (placeOf path) = found' at hplace
      cases hplace with
      | none => exact .error _
      | some hnode =>
          cases hnode with
          | file mode hcontent =>
              simp only
              split
              · exact .error _
              · exact .ok ⟨rfl, rfl, .file mode hcontent⟩
          | directory mode => exact .ok ⟨rfl, rfl, .directory mode⟩

theorem present_eq
    (h : Like rel d d')
    (path : String) :
    d.present path = d'.present path := by
  have hlook := h.look path
  unfold present
  generalize d.look path = found, d'.look path = found' at hlook
  cases hlook with
  | error e => rfl
  | ok _ => rfl

/-- The bytes that are read are related. -/
theorem readBytes
    (h : Like rel d d')
    (path : String) :
    Likewise (rel (placeOf path)) (d.readBytes path) (d'.readBytes path) := by
  have hlook := h.look path
  unfold Disk.readBytes
  generalize d.look path = found, d'.look path = found' at hlook
  cases hlook with
  | error e => exact .error e
  | @ok a b hnodes =>
      obtain ⟨place, node⟩ := a
      obtain ⟨place', node'⟩ := b
      obtain ⟨-, -, hnode⟩ := hnodes
      cases hnode with
      | file mode hcontent => exact .ok hcontent
      | directory mode => exact .error _

theorem isFile_eq
    (h : Like rel d d')
    (path : String) :
    d.isFile path = d'.isFile path := by
  have hlook := h.look path
  unfold isFile
  generalize d.look path = found, d'.look path = found' at hlook
  cases hlook with
  | error e => rfl
  | @ok a b hnodes =>
      obtain ⟨place, node⟩ := a
      obtain ⟨place', node'⟩ := b
      obtain ⟨rfl, rfl, hnode⟩ := hnodes
      cases hnode with
      | file mode hcontent => rfl
      | directory mode => rfl

section Pickers

variable {m m' : Host.Machine}

/-- A program that can be executed is found in both or in neither. -/
theorem isOnSearchPath_eq
    (h : Like rel m.disk m'.disk)
    (henvironment : m.environment = m'.environment)
    (program : String) :
    m.isOnSearchPath program = m'.isOnSearchPath program := by
  have hhome : ∀ directory, m.atHome directory = m'.atHome directory := by
    intro directory
    unfold Host.Machine.atHome
    rw [henvironment]
  unfold Host.Machine.isOnSearchPath
  rw [henvironment]
  split
  · rfl
  · refine congrArg (List.any _) (funext fun directory => ?_)
    rw [hhome directory]
    have hlook := h.look (Path.join (String.ofList (m'.atHome directory)) program)
    generalize m.disk.look _ = found, m'.disk.look _ = found' at hlook ⊢
    cases hlook with
    | error e => rfl
    | @ok a b hnodes =>
        obtain ⟨place, node⟩ := a
        obtain ⟨place', node'⟩ := b
        obtain ⟨-, -, hnode⟩ := hnodes
        cases hnode with
        | file mode hcontent => rfl
        | directory mode => rfl

/-- A picker can be used in both or in neither. -/
theorem hasPicker_eq
    (h : Like rel m.disk m'.disk)
    (henvironment : m.environment = m'.environment)
    (program : String) :
    m.hasPicker program = m'.hasPicker program := by
  unfold Host.Machine.hasPicker
  rw [h.isFile_eq, isOnSearchPath_eq h henvironment]

end Pickers

end Looking

section Changing

theorem put
    (h : Like rel d d')
    (hnode : Node.Like (rel place) node node') :
    Like rel (d.put place node) (d'.put place node') := by
  intro other
  by_cases hother : other = place
  · subst hother
    by_cases hroot : other = []
    · -- The root is always a directory, whatever is put there.
      subst hroot
      exact .some (.directory directoryMode)
    · rw [at?_put_self node hroot, at?_put_self node' hroot]
      exact .some hnode
  · rw [at?_put_of_ne node hother, at?_put_of_ne node' hother]
    exact h other

theorem erase
    (h : Like rel d d')
    (place : Place) :
    Like rel (d.erase place) (d'.erase place) := by
  intro other
  by_cases hother : other = place
  · subst hother
    by_cases hroot : other = []
    · subst hroot
      exact .some (.directory directoryMode)
    · rw [at?_erase_self hroot, at?_erase_self hroot]
      exact .none
  · rw [at?_erase_of_ne hother, at?_erase_of_ne hother]
    exact h other

theorem unlink
    (h : Like rel d d')
    (path : String) :
    Likewise (Like rel) (d.unlink path) (d'.unlink path) := by
  have hlook := h.look path
  unfold Disk.unlink
  generalize d.look path = found, d'.look path = found' at hlook
  cases hlook with
  | error e => exact .error e
  | @ok a b hnodes =>
      obtain ⟨place, node⟩ := a
      obtain ⟨place', node'⟩ := b
      obtain ⟨rfl, rfl, hnode⟩ := hnodes
      cases hnode with
      | file mode hcontent => exact .ok (h.erase _)
      | directory mode => exact .error _

theorem discard
    (h : Like rel d d')
    (path : String) :
    Likewise (Like rel) (d.discard path) (d'.discard path) := by
  have hunlink := h.unlink path
  unfold Disk.discard
  generalize d.unlink path = result, d'.unlink path = result' at hunlink
  cases hunlink with
  | error e =>
      cases e with
      | notFound => exact .ok h
      | _ => exact .error _
  | ok hafter => exact .ok hafter

theorem createFile
    (hrefl : ∀ place content, rel place content content)
    (h : Like rel d d')
    (path : String)
    (mode : Nat) :
    Likewise (Like rel) (d.createFile path mode) (d'.createFile path mode) := by
  unfold Disk.createFile
  rw [h.locate_eq path]
  cases d'.locate path with
  | error e => exact .error e
  | ok place =>
      have hplace := h place
      simp only
      generalize d.at? place = found, d'.at? place = found' at hplace
      cases hplace with
      | some hnode => exact .error _
      | none =>
          simp only [Option.isSome_none, Bool.false_eq_true, if_false]
          split
          · exact .error _
          · exact .ok (h.put (.file mode (hrefl place .empty)))

theorem fill
    (h : Like rel d d')
    (hbytes : rel (placeOf path) bytes bytes') :
    Likewise (Like rel) (d.fill path bytes) (d'.fill path bytes') := by
  have hlook := h.look path
  unfold Disk.fill
  generalize d.look path = found, d'.look path = found' at hlook
  cases hlook with
  | error e => exact .error e
  | @ok a b hnodes =>
      obtain ⟨place, node⟩ := a
      obtain ⟨place', node'⟩ := b
      obtain ⟨rfl, rfl, hnode⟩ := hnodes
      cases hnode with
      | file mode hcontent => exact .ok (h.put (.file mode hbytes))
      | directory mode => exact .error _

theorem setMode
    (h : Like rel d d')
    (path : String)
    (mode : Nat) :
    Likewise (Like rel) (d.setMode path mode) (d'.setMode path mode) := by
  have hlook := h.look path
  unfold Disk.setMode
  generalize d.look path = found, d'.look path = found' at hlook
  cases hlook with
  | error e => exact .error e
  | @ok a b hnodes =>
      obtain ⟨place, node⟩ := a
      obtain ⟨place', node'⟩ := b
      obtain ⟨rfl, rfl, hnode⟩ := hnodes
      exact .ok (h.put (hnode.withMode _))

/-- A file with bytes that may differ where it is moved to is moved in both or in neither. -/
theorem rename
    {source target : String}
    (h : Like rel d d')
    (hbytes : rel (placeOf target) bytes bytes')
    {mode : Nat}
    (hsource : ∃ place, d.look source = .ok (place, .file bytes mode))
    (hsource' : ∃ place, d'.look source = .ok (place, .file bytes' mode)) :
    Likewise (Like rel) (d.rename source target) (d'.rename source target) := by
  obtain ⟨base, hlook⟩ := hsource
  obtain ⟨base', hlook'⟩ := hsource'
  obtain rfl := eq_placeOf_of_look hlook
  obtain rfl := eq_placeOf_of_look hlook'
  unfold Disk.rename
  rw [hlook, hlook', h.locate_eq target]
  cases hlocate : d'.locate target with
  | error e => exact .error e
  | ok place =>
      obtain rfl := eq_placeOf_of_locate hlocate
      have hmoved : Like rel ((d.erase (placeOf source)).put (placeOf target) (.file bytes mode))
          ((d'.erase (placeOf source)).put (placeOf target) (.file bytes' mode)) :=
        (h.erase _).put (.file mode hbytes)
      have hplace := h (placeOf target)
      simp only
      split
      · exact .error _
      · split
        · exact .error _
        · generalize d.at? (placeOf target) = found, d'.at? (placeOf target) = found' at hplace
          cases hplace with
          | none => exact .ok hmoved
          | some hnode =>
              cases hnode with
              | file _ _ => exact .ok hmoved
              | directory _ => exact .error _

theorem makePlaces
    (h : Like rel d d')
    (base : Place)
    (names : List String) :
    Ends rel (d.makePlaces base names) (d'.makePlaces base names) := by
  induction names generalizing d d' base with
  | nil => exact ⟨rfl, h⟩
  | cons name names ih =>
      unfold Disk.makePlaces
      split
      · exact ih h base
      · split
        · exact ih h base.dropLast
        · split
          · exact ⟨rfl, h⟩
          · have hplace := h (base ++ [name])
            simp only
            generalize d.at? (base ++ [name]) = found, d'.at? (base ++ [name]) = found' at hplace
            cases hplace with
            | none => exact ih (h.put (.directory directoryMode)) _
            | some hnode =>
                cases hnode with
                | file _ _ => exact ⟨rfl, h⟩
                | directory _ => exact ih h _

theorem makeParents
    (h : Like rel d d')
    (path : String) :
    Ends rel (Disk.makeParents noTrouble path d) (Disk.makeParents noTrouble path d') := by
  unfold Disk.makeParents
  cases Path.parent? path with
  | none => exact ⟨rfl, h⟩
  | some parent =>
      have hmade : Ends rel (d.makeDirectories parent) (d'.makeDirectories parent) := by
        unfold makeDirectories
        split
        · exact ⟨rfl, h⟩
        · split
          · exact ⟨rfl, h⟩
          · exact h.makePlaces _ _
      simp only [noTrouble]
      split
      · exact ⟨rfl, h⟩
      · generalize d.makeDirectories parent = made, d'.makeDirectories parent = made' at hmade
        obtain ⟨d₁, result⟩ := made
        obtain ⟨d₁', result'⟩ := made'
        obtain ⟨rfl, hafter⟩ := hmade
        cases result with
        | error e => exact ⟨rfl, hafter⟩
        | ok _ => exact ⟨rfl, hafter⟩

end Changing

end Like

theorem Ends.step
    {result result' : Except OsError Disk}
    (h : Like rel d d')
    (s : ReplaceStep)
    (hresult : Likewise (Like rel) result result') :
    Ends rel (Disk.step noTrouble s d result) (Disk.step noTrouble s d' result') := by
  cases hresult with
  | error e => exact ⟨rfl, h⟩
  | ok hafter => exact ⟨rfl, hafter⟩

/-- Two calls, of which the second is made when the first succeeds. -/
theorem Ends.andThen
    {first first' : Disk × Except OsError Unit}
    {second second' : Disk → Disk × Except OsError Unit} :
    Ends rel first first' → (∀ d d', Like rel d d' → Ends rel (second d) (second' d')) →
      Ends rel
        (match first with
          | (d, .error e) => (d, .error e)
          | (d, .ok ()) => second d : Disk × Except OsError Unit)
        (match first' with
          | (d, .error e) => (d, .error e)
          | (d, .ok ()) => second' d) := by
  intro hfirst hsecond
  obtain ⟨d₁, result⟩ := first
  obtain ⟨d₁', result'⟩ := first'
  obtain ⟨rfl, hafter⟩ := hfirst
  cases result with
  | error e => exact ⟨rfl, hafter⟩
  | ok _ => exact hsecond d₁ d₁' hafter

namespace Like

section Replacing

variable {text text' : String}
variable (hrefl : ∀ place content, rel place content content)

include hrefl

theorem writePrivate
    (h : Like rel d d')
    (hbytes : rel (placeOf path) bytes bytes') :
    Ends rel (Disk.writePrivate noTrouble path bytes d) (Disk.writePrivate noTrouble path bytes' d') := by
  unfold Disk.writePrivate
  refine (Ends.step h .discardOld (h.discard path)).andThen fun d₁ d₁' h₁ => ?_
  refine (Ends.step h₁ .create (createFile hrefl h₁ path privateMode)).andThen fun d₂ d₂' h₂ => ?_
  exact (Ends.step h₂ .fill (h₂.fill hbytes)).andThen fun d₃ d₃' h₃ => .step h₃ .sync (.ok h₃)

theorem writeAndRename
    (h : Like rel d d')
    (htemporary : rel (placeOf (Path.temporary path)) bytes bytes')
    (hpath : rel (placeOf path) bytes bytes') :
    Ends rel (Disk.writeAndRename noTrouble path bytes d)
      (Disk.writeAndRename noTrouble path bytes' d') := by
  have hwrite := writePrivate hrefl h htemporary
  unfold Disk.writeAndRename
  simp only
  cases hw : Disk.writePrivate noTrouble (Path.temporary path) bytes d with
  | mk d₁ result =>
      cases hw' : Disk.writePrivate noTrouble (Path.temporary path) bytes' d' with
      | mk d₁' result' =>
          rw [hw, hw'] at hwrite
          obtain ⟨rfl, h₁⟩ := hwrite
          cases result with
          | error e => exact ⟨rfl, h₁⟩
          | ok _ =>
              -- What is moved is what has been written, not what was there.
              have hmoved := Ends.step h₁ .rename
                (h₁.rename hpath (look_of_writePrivate hw) (look_of_writePrivate hw'))
              simp only
              generalize Disk.step noTrouble .rename d₁ _ = moved,
                Disk.step noTrouble .rename d₁' _ = moved' at hmoved ⊢
              obtain ⟨d₂, result⟩ := moved
              obtain ⟨d₂', result'⟩ := moved'
              obtain ⟨rfl, h₂⟩ := hmoved
              cases result with
              | error e => exact ⟨rfl, h₂⟩
              | ok _ => exact ⟨rfl, h₂⟩

/-- Replacing a file ends in the same way in both. -/
theorem replace
    (h : Like rel d d')
    (htemporary : rel (placeOf (Path.temporary path)) text.toUTF8 text'.toUTF8)
    (hpath : rel (placeOf path) text.toUTF8 text'.toUTF8) :
    (Disk.replace noTrouble path text d).1 = (Disk.replace noTrouble path text' d').1 ∧
      Like rel (Disk.replace noTrouble path text d).2 (Disk.replace noTrouble path text' d').2 := by
  have hparents := h.makeParents path
  unfold Disk.replace
  generalize Disk.makeParents noTrouble path d = made,
    Disk.makeParents noTrouble path d' = made' at hparents
  obtain ⟨d₁, result⟩ := made
  obtain ⟨d₁', result'⟩ := made'
  obtain ⟨rfl, h₁⟩ := hparents
  cases result with
  | error fault => exact ⟨rfl, h₁⟩
  | ok _ =>
      have hwrite := writeAndRename hrefl h₁ htemporary hpath
      simp only
      generalize Disk.writeAndRename noTrouble path text.toUTF8 d₁ = written,
        Disk.writeAndRename noTrouble path text'.toUTF8 d₁' = written' at hwrite
      obtain ⟨d₂, result⟩ := written
      obtain ⟨d₂', result'⟩ := written'
      obtain ⟨rfl, h₂⟩ := hwrite
      cases result with
      | ok _ => exact ⟨rfl, h₂⟩
      | error fault =>
          exact ⟨rfl, (Ends.step h₂ .discardNew (h₂.unlink (Path.temporary path))).2⟩

end Replacing

theorem removeFile
    (h : Like rel d d')
    (path : String) :
    (Disk.removeFile path d).1 = (Disk.removeFile path d').1 ∧
      Like rel (Disk.removeFile path d).2 (Disk.removeFile path d').2 := by
  have hdiscard := h.discard path
  unfold Disk.removeFile
  generalize d.discard path = result, d'.discard path = result' at hdiscard
  cases hdiscard with
  | error e => exact ⟨rfl, h⟩
  | ok hafter => exact ⟨rfl, hafter⟩

theorem changeMode
    (h : Like rel d d')
    (path : String)
    (mode : Nat) :
    (Disk.changeMode path mode d).1 = (Disk.changeMode path mode d').1 ∧
      Like rel (Disk.changeMode path mode d).2 (Disk.changeMode path mode d').2 := by
  have hset := h.setMode path mode
  unfold Disk.changeMode
  generalize d.setMode path mode = result, d'.setMode path mode = result' at hset
  cases hset with
  | error e => exact ⟨rfl, h⟩
  | ok hafter => exact ⟨rfl, hafter⟩

end Like
end Disk
end Keyring
