import Keyring.Proofs.Action.Triple
import Keyring.Proofs.Command.Steps
import Keyring.Proofs.Launcher
import Keyring.Proofs.Resolution
import Keyring.Proofs.Store.Files

/-!
# What each command may touch

Whatever the files hold and whichever calls fail, a command only touches files of its own.  The commands
that look change nothing at all; those that work on keys write the key store; removing a key may delete the
marker as well; and launching may write the marker and nothing else.  Nothing but launching launches.
The marker is only touched in the ways of `Context.MarkerChange`.

Writing a file on disk takes a temporary file beside it, so a command leaves another file alone if that is
neither one of its own nor the temporary one in writing them (`World.Apart`).  What started programs do is up
to them; they are asked to spare the file.

All this is `Context.execute_footprint`.
-/

namespace Keyring

open Keyring.Action (Ensures Keeps)
open Keyring.Disk (OwnTemporary)
open World (Idle KeepsFile Rests)

section Launches

variable {w : World}

theorem Vault.launches_save
    (v : Vault)
    (keys : Collection) :
    (v.save keys w).2.launches = w.launches := by
  have hwrite : ∀ text, (v.writePrivate text w).2.launches = w.launches := by
    intro text
    have hwritten : (FileSystem.write v.path text w).2.launches = w.launches :=
      (w.sameDialogue_onFiles _ _).launches
    unfold writePrivate
    split
    · next heq =>
        rw [heq] at hwritten
        exact hwritten
    · next w₁ heq =>
        rw [heq] at hwritten
        exact (w₁.sameDialogue_onFiles _ _).launches.trans hwritten
  unfold save
  split
  · rfl
  · next text _ =>
      have hwritten := hwrite text
      split
      · next heq =>
          rw [heq] at hwritten
          exact hwritten
      · next heq =>
          rw [heq] at hwritten
          exact hwritten

theorem Context.launches_forget
    (c : Context)
    (name : KeyName) :
    (c.forget name w).2.launches = w.launches := by
  change (if c.marker.get? w = some name then (c.marker.clear w).2 else w).launches = _
  split
  · unfold Marker.clear
    split
    · exact (w.sameDialogue_onFiles _ _).launches
    · rfl
  · rfl

end Launches

/-- Whether between two worlds nothing has been launched or started, and of the files only one that is written
under a given path has changed. -/
structure World.OnlyAt (path : String) (w w' : World) : Prop where
  launches : w'.launches = w.launches
  setting : World.SameSetting w w'
  files : ∀ other, w.Apart other path → KeepsFile other w w'

namespace World.OnlyAt

variable {path : String} {w w' w'' : World}

theorem of_rests
    (h : Rests w w') :
    w.OnlyAt path w' where
  launches := h.launches
  setting := .of_rests h
  files _ _ := .of_rests h

theorem trans
    (h : w.OnlyAt path w')
    (h' : w'.OnlyAt path w'') :
    w.OnlyAt path w'' where
  launches := h'.launches.trans h.launches
  setting := h.setting.trans h'.setting
  files other hother := (h.files other hother).trans (h'.files other (h.setting.apart hother))

end World.OnlyAt

namespace Vault

theorem onlyAt_save
    (v : Vault)
    (keys : Collection)
    (w : World) :
    w.OnlyAt v.path (v.save keys w).2 where
  launches := v.launches_save keys
  setting := sameSetting_of_save rfl
  files _ hother := keepsFile_of_save hother rfl

theorem keeps_load
    {P : World → Prop}
    (v : Vault) :
    Keeps P v.load :=
  .of_snd fun _ hw => hw

/-- What is loaded twice without a write in between is the same. -/
theorem contents_eq_of_rests
    {v : Vault}
    {keys after : Collection}
    {w w' : World}
    (hrests : Rests w w')
    (hbefore : v.contents w = .ok keys)
    (hafter : v.contents w' = .ok after) :
    after = keys := by
  have hsame := hrests.fileSight v.path
  rcases fileSight_of_contents hbefore with ⟨hnone, rfl⟩ | ⟨text, hseen, htext⟩
  · cases (contents_of_fileSight_eq_none (hsame.trans hnone)).symm.trans hafter
    rfl
  · rcases fileSight_of_contents hafter with ⟨hnone, -⟩ | ⟨text', hseen', htext'⟩
    · rw [hsame, hseen] at hnone
      cases hnone
    · rw [hsame, hseen] at hseen'
      cases String.toByteArray_inj.1 (Option.some.inj (Option.some.inj hseen'))
      exact Except.ok.inj (htext'.symm.trans htext)

/-- What has been loaded is what the key store held at the start, as long as nothing has been written. -/
theorem ensures_contents
    {w₀ : World}
    (v : Vault) :
    Ensures (fun w => w = w₀) v.load (fun keys w => v.contents w₀ = .ok keys ∧ Rests w₀ w)
      (fun _ => Rests w₀) := by
  rintro w rfl
  constructor
  · intro keys w' hload
    obtain ⟨hcontents, rfl⟩ := load_eq_ok.1 hload
    exact ⟨hcontents, .refl _⟩
  · intro abort w' hload
    obtain ⟨-, rfl⟩ := load_eq_error.1 hload
    exact .refl _

end Vault

namespace Context

variable {c : Context} {w₀ : World}

/-- What is kept as time goes by is kept by what is done at a later moment. -/
theorem keeps_later
    {α : Type}
    {P : World → Prop}
    {x : Action World Abort α}
    (hP : ∀ w w', P w → Rests w w' → P w')
    (hx : Keeps P x) :
    Keeps P (later x) :=
  fun w hw => hx (FileSystem.elapse w) (hP w _ hw (.elapse w))

section KeyStore

/-- Whether there has been nothing but changes of the key store. -/
abbrev Stored (c : Context) (w₀ w : World) : Prop :=
  w₀.OnlyAt c.vault.path w

theorem Stored.trans_rests
    {w w' : World}
    (h : c.Stored w₀ w)
    (hrests : Rests w w') :
    c.Stored w₀ w' :=
  h.trans (.of_rests hrests)

theorem keeps_save
    (keys : Collection) :
    Keeps (c.Stored w₀) (c.vault.save keys) :=
  .of_snd fun w hw => hw.trans (c.vault.onlyAt_save keys w)

theorem keeps_vaultUpdate
    (key : Profile) :
    Keeps (c.Stored w₀) (c.vault.update key) := by
  refine c.vault.keeps_load.bind fun found => ?_
  split
  · exact keeps_save _
  · exact .fail _

theorem keeps_store
    (before : Collection)
    (key : Profile) :
    Keeps (c.Stored w₀) (c.store before key) :=
  .ite (fun _ => keeps_vaultUpdate key) fun _ => c.vault.keeps_load.bind fun _ => keeps_save _

theorem keeps_vaultRemove
    (name : KeyName) :
    Keeps (c.Stored w₀) (c.vault.remove name) := by
  refine c.vault.keeps_load.bind fun found => ?_
  exact (keeps_save _).bind fun _ => .pure _

theorem keeps_secretFrom
    (spec : String) :
    Keeps (c.Stored w₀) (secretFrom spec) :=
  .of_snd fun w hw => hw.trans_rests (rests_secretFrom spec w)

theorem keeps_add
    (new : NewKey) :
    Keeps (c.Stored w₀) (c.add new) := by
  refine (Keeps.check _).bind fun name => (Keeps.check _).bind fun baseUrl => ?_
  refine c.vault.keeps_load.bind fun before => ?_
  refine .ite (fun _ => .fail _) fun _ => ?_
  refine (keeps_secretFrom _).bind fun secret => ?_
  refine (keeps_later (fun _ _ => Stored.trans_rests) (keeps_store before _)).bind fun _ => ?_
  exact (Keeps.orCrash _).bind fun _ => .pure _

theorem keeps_edit
    (change : KeyEdit) :
    Keeps (c.Stored w₀) (c.edit change) := by
  refine (Keeps.check _).bind fun name => ?_
  refine .ite (fun _ => .fail _) fun _ => ?_
  refine (c.vault.keeps_load.bind fun _ => .pure _).bind fun found => ?_
  split
  · exact .fail _
  · refine (Keeps.check _).bind fun moved => ?_
    have hsecret : Keeps (c.Stored w₀) (change.changeSecret (change.changeNote moved)) := by
      unfold KeyEdit.changeSecret
      split
      · exact .pure _
      · exact (keeps_secretFrom _).bind fun _ => .pure _
    have hdefault : Keeps (c.Stored w₀) c.vault.getDefault :=
      c.vault.keeps_load.bind fun _ => .pure _
    refine hsecret.bind fun key => ?_
    refine (keeps_later (fun _ _ => Stored.trans_rests) (keeps_vaultUpdate key)).bind fun _ => ?_
    refine (keeps_later (fun _ _ => Stored.trans_rests) hdefault).bind fun standing => ?_
    exact (Keeps.orCrash _).bind fun _ => .pure _

theorem keeps_use
    (raw : String) :
    Keeps (c.Stored w₀) (c.use raw) := by
  refine (Keeps.check _).bind fun name => ?_
  have hset : Keeps (c.Stored w₀) (c.vault.setDefault name) := by
    refine c.vault.keeps_load.bind fun found => ?_
    split
    · exact keeps_save _
    · exact .fail _
  exact hset.bind fun _ => .pure _

end KeyStore

section Looking

variable {P : World → Prop}

theorem keeps_list :
    Keeps P c.list := by
  refine c.vault.keeps_load.bind fun found => (Keeps.view _).bind fun offset => ?_
  exact (Keeps.orCrash _).bind fun _ => (Keeps.orCrash _).bind fun _ => .pure _

theorem keeps_current :
    Keeps P c.current := by
  refine (c.vault.keeps_load.bind fun _ => .pure _).bind fun found => ?_
  split
  · refine (Keeps.view _).bind fun offset => ?_
    exact (Keeps.orCrash _).bind fun _ => (Keeps.orCrash _).bind fun _ => .pure _
  · exact .pure _

end Looking

theorem keeps_confirm
    (name : KeyName)
    (wasDefault : Bool) :
    Keeps (Rests w₀) (Removal.confirm name wasDefault) := by
  refine .of_snd fun w hw => ?_
  obtain ⟨agreed, w₁, hconfirm, hrests⟩ := exists_confirm name wasDefault w
  rw [hconfirm]
  exact hw.trans hrests

section Launching

variable {launches : List Launch}

theorem keepsLaunches_of_stored
    {α : Type}
    {x : Action World Abort α}
    (h : ∀ w, Keeps (c.Stored w) x) :
    Keeps (fun w : World => w.launches = launches) x :=
  .of_snd fun w hw => ((h w).snd (World.OnlyAt.of_rests (.refl w))).launches.trans hw

theorem keepsLaunches_remove
    (raw : String)
    (confirmed : Bool) :
    Keeps (fun w : World => w.launches = launches) (c.remove raw confirmed) := by
  have hremove : ∀ name wasDefault,
      Keeps (fun w : World => w.launches = launches) (c.removeStored name wasDefault) := by
    intro name wasDefault
    have hforget : Keeps (fun w : World => w.launches = launches) (c.forget name) :=
      .of_snd fun w hw => (c.launches_forget name).trans hw
    have hlater : Keeps (fun w : World => w.launches = launches) (later (c.vault.remove name)) :=
      keeps_later (fun _ _ hw hrests => hrests.launches.trans hw)
        (keepsLaunches_of_stored fun _ => keeps_vaultRemove name)
    exact hlater.bind fun _ => hforget.bind fun _ => .pure _
  refine (Keeps.check _).bind fun name => c.vault.keeps_load.bind fun keys => ?_
  refine .ite (fun _ => ?_) fun _ => .fail _
  have hdecided : ∀ agreed : Bool, Keeps (fun w : World => w.launches = launches)
      (if agreed then c.removeStored name (keys.isDefault name)
        else pure (Removal.cancelled name)) := fun agreed =>
    .ite (fun _ => hremove name _) fun _ => .pure _
  have hconfirm : Keeps (fun w : World => w.launches = launches)
      (Removal.confirm name (keys.isDefault name)) :=
    .of_snd fun w hw => ((keeps_confirm name _).snd (.refl w)).launches.trans hw
  simp only
  split
  · exact (Keeps.pure true).bind hdecided
  · exact hconfirm.bind hdecided

/-- Nothing but a run launches anything. -/
theorem keepsLaunches_execute
    {command : Command}
    (hcommand : ∀ request, command ≠ .run request) :
    Keeps (fun w : World => w.launches = launches) (c.execute command) := by
  cases command with
  | list => exact keeps_list
  | current => exact keeps_current
  | add new => exact keepsLaunches_of_stored fun _ => keeps_add new
  | edit change => exact keepsLaunches_of_stored fun _ => keeps_edit change
  | remove raw confirmed => exact keepsLaunches_remove raw confirmed
  | use raw => exact keepsLaunches_of_stored fun _ => keeps_use raw
  | run request => exact absurd rfl (hcommand request)
  | completion shell => exact .pure _

end Launching

/-- The files that a command may touch. -/
def ownFiles (c : Context) : Command → List String
  | .list | .current | .completion _ => []
  | .add _ | .edit _ | .use _ => [c.vault.path]
  | .remove _ _ => [c.vault.path, c.marker.path]
  | .run _ => [c.marker.path]

/-- The ways in which a command may change the marker: it is deleted when it names a key that has just been
removed from the key store, or it takes the name of a key that has just been chosen, and not by default.  A
marker that is its own temporary file is lost when that name cannot be written. -/
inductive MarkerChange (c : Context) (w w' : World) : Command → Prop
  | forgotten
      {raw : String} {confirmed : Bool} {name : KeyName} {keys : Collection} {text : String}
      {mode : Option Nat} {w₁ w₂ : World}
      (hname : KeyName.read raw = .ok name)
      (hcontents : c.vault.contents w = .ok keys)
      (hstored : name ∈ keys.names)
      (hrests : Rests w w₁)
      (hremoved : c.vault.remove name w₁ = (.ok true, w₂))
      (hmarked : w.file? c.marker.path = some ⟨text.toUTF8, mode⟩)
      (hnamed : Marker.ofText? text = some name)
      (hdeleted : w'.file? c.marker.path = none) :
      MarkerChange c w w' (.remove raw confirmed)
  | remembered
      {request : LaunchRequest} {resolved : Resolved} {mode : Option Nat} {w₁ : World}
      (hresolved : c.chooser.resolve ⟨request.key, request.useDefault⟩ w = (.ok resolved, w₁))
      (hsource : resolved.source = .explicit ∨ resolved.source = .interactive)
      (hwritten : w'.file? c.marker.path = some ⟨resolved.key.name.value.toUTF8, mode⟩) :
      MarkerChange c w w' (.run request)
  | lost
      {request : LaunchRequest} {name : KeyName} {fault : FileFault} {w₁ w₂ : World}
      (hdisk : w.memory = none)
      (hown : OwnTemporary c.marker.path)
      (hfault : FileSystem.write c.marker.path name.value w₁ = (.error fault, w₂))
      (hlost : w'.file? c.marker.path = none) :
      MarkerChange c w w' (.run request)

/-- Whether a command has done nothing but what it may: one without files of its own nothing at all, nothing
but a run has launched anything, a file that has nothing to do with writing the command's own is kept, and
the marker is kept or changed in one of the ways in which it may be. -/
structure Footprint (c : Context) (command : Command) (w w' : World) : Prop where
  nothing : c.ownFiles command = [] → w' = w
  launches : (∀ request, command ≠ .run request) → w'.launches = w.launches
  files : ∀ path, w.Spares path → (∀ own ∈ c.ownFiles command, w.Apart path own) → KeepsFile path w w'
  marker : w.Spares c.marker.path → w.Apart c.marker.path c.vault.path →
    KeepsFile c.marker.path w w' ∨ c.MarkerChange w w' command

section Execution

variable {command : Command} {w w' : World}

theorem footprint_of_stored
    (hown : c.ownFiles command = [c.vault.path])
    (h : c.Stored w w') :
    c.Footprint command w w' where
  nothing hnone := by
    rw [hown] at hnone
    cases hnone
  launches _ := h.launches
  files path _ hapart := h.files path (hapart c.vault.path (by rw [hown]; exact List.mem_cons_self))
  marker _ hapart := .inl (h.files c.marker.path hapart)

/-- Whether files and the marker are what a removal may leave. -/
structure Removes (c : Context) (raw : String) (confirmed : Bool) (w w' : World) : Prop where
  setting : World.SameSetting w w'
  files : ∀ path, w.Apart path c.vault.path → w.Apart path c.marker.path → KeepsFile path w w'
  marker : w.Apart c.marker.path c.vault.path →
    KeepsFile c.marker.path w w' ∨ c.MarkerChange w w' (.remove raw confirmed)

theorem Removes.of_stored
    {raw : String}
    {confirmed : Bool}
    (h : c.Stored w w') :
    c.Removes raw confirmed w w' where
  setting := h.setting
  files path hvault _ := h.files path hvault
  marker hapart := .inl (h.files c.marker.path hapart)

theorem Removes.of_rests
    {raw : String}
    {confirmed : Bool}
    (h : Rests w w') :
    c.Removes raw confirmed w w' :=
  .of_stored (World.OnlyAt.of_rests h)

/-- Nothing but the marker is touched by forgetting a key. -/
theorem keepsFile_forget
    {path : String}
    (name : KeyName)
    (h : w.Distinct path c.marker.path) :
    KeepsFile path w (c.forget name w).2 := by
  change KeepsFile path w (if c.marker.get? w = some name then (c.marker.clear w).2 else w)
  split
  · exact Marker.keepsFile_clear h
  · exact .refl path w

theorem sameSetting_forget
    (name : KeyName) :
    World.SameSetting w (c.forget name w).2 := by
  change World.SameSetting w (if c.marker.get? w = some name then (c.marker.clear w).2 else w)
  split
  · exact c.marker.sameSetting_clear w
  · exact .refl w

/-- Forgetting a key deletes the marker at most if that names the key. -/
theorem file?_forget
    (name : KeyName) :
    (c.forget name w).2 = w ∨
      c.marker.get? w = some name ∧ (c.forget name w).2.file? c.marker.path = none := by
  change (if c.marker.get? w = some name then (c.marker.clear w).2 else w) = w ∨
    _ ∧ World.file? (if c.marker.get? w = some name then (c.marker.clear w).2 else w) c.marker.path = none
  split
  · next hmarked =>
      rcases Marker.file?_clear hmarked with hgone | ⟨-, hsame⟩
      · exact .inr ⟨hmarked, hgone⟩
      · exact .inl hsame
  · exact .inl rfl

/-- A key that is there is removed.  Then the marker is deleted if it holds that name. -/
theorem removes_removeStored
    {raw : String}
    {confirmed : Bool}
    {name : KeyName}
    {keys : Collection}
    (wasDefault : Bool)
    (hname : KeyName.read raw = .ok name)
    (hcontents : c.vault.contents w₀ = .ok keys)
    (hstored : keys.contains name = true)
    (hw : Rests w₀ w) :
    c.Removes raw confirmed w₀ (c.removeStored name wasDefault w).2 := by
  have hrests := hw.trans (.elapse w)
  have hworked := (keeps_vaultRemove (c := c) name).snd (World.OnlyAt.of_rests hrests)
  cases hremove : c.vault.remove name (FileSystem.elapse w) with
  | mk result w₂ =>
      rw [hremove] at hworked
      cases result with
      | error abort =>
          have hstops : (c.removeStored name wasDefault w).2 = w₂ := by simp [removeStored, hremove]
          rw [hstops]
          exact .of_stored hworked
      | ok found =>
          have hforgets : (c.removeStored name wasDefault w).2 = (c.forget name w₂).2 := by
            simp [removeStored, hremove, forget]
          rw [hforgets]
          refine ⟨hworked.setting.trans (sameSetting_forget name), fun path hvault hmarker => ?_,
            fun hapart => ?_⟩
          · exact (hworked.files path hvault).trans
              (keepsFile_forget name (hworked.setting.distinct hmarker.distinct))
          · have hkept := hworked.files c.marker.path hapart
            rcases file?_forget (c := c) (w := w₂) name with hsame | ⟨hmarked, hgone⟩
            · rw [hsame]
              exact .inl hkept
            · obtain ⟨text, hseen, hnamed⟩ := Marker.exists_fileSight_of_get? hmarked
              obtain ⟨mode, hfile⟩ := World.exists_file?_of_fileSight hseen
              obtain ⟨before, w₁, hload, -⟩ := Action.bind_eq_ok.1 hremove
              obtain ⟨hbefore, rfl⟩ := Vault.load_eq_ok.1 hload
              cases Vault.contents_eq_of_rests hrests hcontents hbefore
              have hfound := (Vault.save_of_remove hbefore hremove).1
              rw [hstored] at hfound
              subst hfound
              exact .inr (.forgotten hname hcontents (Collection.contains_iff.1 hstored) hrests hremove
                (hkept.file.symm.trans hfile) hnamed hgone)

theorem removes_remove
    (raw : String)
    (confirmed : Bool) :
    c.Removes raw confirmed w (c.remove raw confirmed w).2 := by
  let Removed := c.Removes raw confirmed w
  have hrests : ∀ w', Rests w w' → Removed w' := fun _ => .of_rests
  have hensured : Ensures (fun x => x = w) (c.remove raw confirmed) (fun _ => Removed)
      (fun _ => Removed) := by
    refine (Ensures.check (Q := fun name x => KeyName.read raw = .ok name ∧ x = w)
      (fun _ _ hname hw => ⟨hname, hw⟩) fun _ w' _ hw => hrests w' (hw ▸ .refl w)).bind
        fun name => Ensures.assume fun hname => ?_
    refine (c.vault.ensures_contents.mono (fun _ hw => hw) (fun _ _ hq => hq)
      fun _ w' hw => hrests w' hw).bind fun keys => Ensures.assume fun hkeys => ?_
    refine .ite (fun hcontains => ?_) fun _ => Ensures.fail hrests
    have hdecided : ∀ agreed : Bool,
        Ensures (Rests w) (if agreed then c.removeStored name (keys.isDefault name)
          else pure (Removal.cancelled name)) (fun _ => Removed) (fun _ => Removed) := fun agreed =>
      .ite (fun _ => .of_snd fun _ hw => removes_removeStored _ hname hkeys hcontains hw)
        fun _ => Ensures.pure hrests
    simp only
    split
    · exact (Ensures.pure fun _ hw => hw).bind hdecided
    · exact (Ensures.mono (keeps_confirm name _) (fun _ hw => hw) (fun _ _ hq => hq)
        fun _ w' hw => hrests w' hw).bind hdecided
  exact hensured.snd rfl

theorem footprint_of_removes
    {raw : String}
    {confirmed : Bool}
    (hlaunches : w'.launches = w.launches)
    (h : c.Removes raw confirmed w w') :
    c.Footprint (.remove raw confirmed) w w' where
  nothing hnone := nomatch hnone
  launches _ := hlaunches
  files path _ hapart :=
    h.files path (hapart _ List.mem_cons_self) (hapart _ (List.mem_cons_of_mem _ List.mem_cons_self))
  marker _ hapart := h.marker hapart

/-- Once a key has been chosen, a launch is all that follows. -/
theorem run_of_resolve
    {request : LaunchRequest}
    {resolved : Resolved}
    {w₁ : World}
    (h : c.chooser.resolve ⟨request.key, request.useDefault⟩ w = (.ok resolved, w₁)) :
    ∃ report, c.run request w =
      ((c.launchWith resolved request.arguments w₁).1.map fun _ => report,
        (c.launchWith resolved request.arguments w₁).2) := by
  refine ⟨.silent (.object [("key", .string resolved.key.name.value),
    ("source", .string resolved.source.name), ("command", .string c.config.command)]), ?_⟩
  simp only [run, Action.bind_apply, h]
  cases c.launchWith resolved request.arguments w₁ with
  | mk result w' =>
      cases result with
      | error abort => rfl
      | ok u => rfl

/-- A launch touches no file, as far as programs spare it. -/
theorem keepsFile_launchWith
    {path : String}
    (resolved : Resolved)
    (arguments : List String)
    (hspare : w.Spares path) :
    KeepsFile path w (c.launchWith resolved arguments w).2 :=
  .of_worked hspare (Launcher.memory_launch _ w c.launcher) (Launcher.worked_launch _ w c.launcher)

theorem sameSetting_launchWith
    (resolved : Resolved)
    (arguments : List String) :
    World.SameSetting w (c.launchWith resolved arguments w).2 :=
  .of_worked (Launcher.memory_launch _ w c.launcher) (Launcher.worked_launch _ w c.launcher)

/-- Selectors touch no file, as far as the programs that they start spare it. -/
theorem keepsFile_of_idle
    {path : String}
    (hspare : w.Spares path)
    (h : Idle w w') :
    KeepsFile path w w' :=
  .of_worked hspare h.memory h.machine

theorem sameSetting_of_idle
    (h : Idle w w') :
    World.SameSetting w w' :=
  .of_worked h.memory h.machine

/-- What a run can leave: it has stopped without a key, or launched with a key that need not be remembered, or
launched after it has written the marker or failed to. -/
inductive Runs (c : Context) (request : LaunchRequest) (w : World) : World → Prop
  | stopped
      {w₁ : World}
      (hidle : Idle w w₁) :
      Runs c request w w₁
  | launched
      {resolved : Resolved} {w₁ : World}
      (hidle : Idle w w₁) :
      Runs c request w (c.launchWith resolved request.arguments w₁).2
  | remembered
      {resolved : Resolved} {outcome : Except FileFault Unit} {w₁ w₂ : World}
      (hresolved : c.chooser.resolve ⟨request.key, request.useDefault⟩ w = (.ok resolved, w₂))
      (hsource : resolved.source = .explicit ∨ resolved.source = .interactive)
      (hidle : Idle w w₁)
      (hwrite : FileSystem.write c.marker.path resolved.key.name.value w₁ = (outcome, w₂)) :
      Runs c request w (c.launchWith resolved request.arguments w₂).2

theorem runs_run
    (request : LaunchRequest) :
    c.Runs request w (c.run request w).2 := by
  cases hresolve : c.chooser.resolve ⟨request.key, request.useDefault⟩ w with
  | mk result w₁ =>
      cases result with
      | error abort =>
          have hstops : (c.run request w).2 = w₁ := by simp [run, hresolve]
          rw [hstops]
          exact .stopped (Chooser.idle_of_resolve_eq_error hresolve).2
      | ok resolved =>
          obtain ⟨keys, w₂, -, -, hidle, hremember⟩ := Chooser.exists_of_resolve_eq_ok hresolve
          obtain ⟨report, hrun⟩ := run_of_resolve hresolve
          rw [hrun]
          rcases hremember with ⟨-, rfl⟩ | ⟨hsource, rfl⟩
          · exact .launched hidle
          · exact .remembered hresolve hsource hidle (Prod.eta (FileSystem.write _ _ w₂)).symm

/-- Launching touches no file but the marker, and that only if a key has been chosen and not by default. -/
theorem footprint_run
    (request : LaunchRequest) :
    c.Footprint (.run request) w (c.run request w).2 := by
  have hruns : c.Runs request w (c.run request w).2 := runs_run request
  generalize (c.run request w).2 = w' at hruns
  cases hruns with
  | stopped hidle =>
      exact ⟨nofun, fun hother => absurd rfl (hother request),
        fun path hspare _ => keepsFile_of_idle hspare hidle,
        fun hspare _ => .inl (keepsFile_of_idle hspare hidle)⟩
  | @launched resolved w₁ hidle =>
      have hsetting := sameSetting_of_idle hidle
      have hkept : ∀ path, w.Spares path →
          KeepsFile path w (c.launchWith resolved request.arguments w₁).2 := fun path hspare =>
        (keepsFile_of_idle hspare hidle).trans
          (keepsFile_launchWith resolved request.arguments (hsetting.spares hspare))
      exact ⟨nofun, fun hother => absurd rfl (hother request), fun path hspare _ => hkept path hspare,
        fun hspare _ => .inl (hkept c.marker.path hspare)⟩
  | @remembered resolved outcome w₁ w₂ hresolved hsource hidle hwrite =>
      have hsetting := sameSetting_of_idle hidle
      have hwritten := World.sameSetting_of_write hwrite
      have hlaunch : ∀ path, w.Spares path →
          KeepsFile path w₂ (c.launchWith resolved request.arguments w₂).2 := fun path hspare =>
        keepsFile_launchWith resolved request.arguments (hwritten.spares (hsetting.spares hspare))
      refine ⟨nofun, fun hother => absurd rfl (hother request), fun path hspare hapart => ?_,
        fun hspare _ => ?_⟩
      · have hother := hsetting.apart (hapart c.marker.path List.mem_cons_self)
        exact ((keepsFile_of_idle hspare hidle).trans (World.keepsFile_of_write hother hwrite)).trans
          (hlaunch path hspare)
      · have hafter := hlaunch c.marker.path hspare
        cases outcome with
        | ok u =>
            obtain ⟨⟨mode, hfile⟩, -⟩ := World.file?_of_write hwrite
            exact .inr (.remembered hresolved hsource (hafter.file.trans hfile))
        | error fault =>
            rcases World.keepsFile_or_lost_of_error c.marker.path hwrite with hkept | ⟨hdisk, hown, hlost⟩
            · exact .inl (((keepsFile_of_idle hspare hidle).trans hkept).trans hafter)
            · exact .inr (.lost (hsetting.memory_eq_none_iff.1 hdisk) hown.symm hwrite
                (hafter.file.trans hlost))

theorem sameSetting_run
    (request : LaunchRequest) :
    World.SameSetting w (c.run request w).2 := by
  have hruns : c.Runs request w (c.run request w).2 := runs_run request
  generalize (c.run request w).2 = w' at hruns
  cases hruns with
  | stopped hidle => exact sameSetting_of_idle hidle
  | launched hidle => exact (sameSetting_of_idle hidle).trans (sameSetting_launchWith _ _)
  | remembered hresolved hsource hidle hwrite =>
      exact ((sameSetting_of_idle hidle).trans (World.sameSetting_of_write hwrite)).trans
        (sameSetting_launchWith _ _)

/-- Whatever a command does, the same calls fail afterwards and the same programs are there. -/
theorem sameSetting_execute
    (command : Command)
    (w : World) :
    World.SameSetting w (c.execute command w).2 := by
  have hstart : c.Stored w w := World.OnlyAt.of_rests (.refl w)
  have hkept : Keeps (World.SameSetting w) (c.execute command) → World.SameSetting w (c.execute command w).2 :=
    fun hkeeps => hkeeps.snd (.refl w)
  cases command with
  | list => exact hkept keeps_list
  | current => exact hkept keeps_current
  | add new => exact ((keeps_add new).snd hstart).setting
  | edit change => exact ((keeps_edit change).snd hstart).setting
  | remove raw confirmed => exact (removes_remove raw confirmed).setting
  | use raw => exact ((keeps_use raw).snd hstart).setting
  | run request => exact sameSetting_run request
  | completion shell => exact hkept (.pure _)

theorem footprint_of_eq
    (h : (c.execute command w).2 = w) :
    c.Footprint command w (c.execute command w).2 := by
  rw [h]
  exact ⟨fun _ => rfl, fun _ => rfl, fun path _ _ => .refl path w, fun _ _ => .inl (.refl _ w)⟩

/-- Whatever the files hold and whichever calls fail, a command that has no files of its own changes
nothing, nothing but a run launches anything, files that are not the command's own are left as they were,
and the marker is only touched in the ways described. -/
theorem execute_footprint
    (c : Context)
    (command : Command)
    (w : World) :
    c.Footprint command w (c.execute command w).2 := by
  have hstart : c.Stored w w := World.OnlyAt.of_rests (.refl w)
  have hkeptWorld : ∀ {x : Action World Abort Report}, Keeps (fun x => x = w) x → (x w).2 = w :=
    fun hkept => hkept.snd rfl
  cases command with
  | list => exact footprint_of_eq (hkeptWorld keeps_list)
  | current => exact footprint_of_eq (hkeptWorld keeps_current)
  | add new => exact footprint_of_stored rfl ((keeps_add new).snd hstart)
  | edit change => exact footprint_of_stored rfl ((keeps_edit change).snd hstart)
  | remove raw confirmed =>
      exact footprint_of_removes ((keepsLaunches_remove raw confirmed).snd rfl) (removes_remove raw confirmed)
  | use raw => exact footprint_of_stored rfl ((keeps_use raw).snd hstart)
  | run request => exact footprint_run request
  | completion shell => exact footprint_of_eq (hkeptWorld (.pure _))

end Execution

/-- A key store with one key, which the marker names. -/
def markedStore : Memory :=
  (Vault.storeOfOne "2024-01-01T00:00:00Z" " ").place "last_used" (some "a")

/-- The context of a removal. -/
def removing : Context :=
  .standard .standard ⟨"keys.json", "last_used"⟩ ⟨0⟩ fun _ => ""

theorem execute_footprint_markedStore :
    removing.MarkerChange (.fresh (some markedStore) .bare [])
      (removing.execute (.remove "a" true) (.fresh (some markedStore) .bare [])).2 (.remove "a" true) := by
  let w := World.fresh (some markedStore) .bare []
  have hapart : w.Apart "last_used" "keys.json" := ⟨by decide, nofun⟩
  have hdeleted : ((removing.execute (.remove "a" true) w).2.file? "last_used").isNone = true := by
    decide +kernel
  rcases (execute_footprint removing (.remove "a" true) w).marker nofun hapart with hkept | hchange
  · have hfile : (w.file? "last_used").isNone = true := hkept.file ▸ hdeleted
    cases hfile
  · exact hchange

/-- A context in which the marker is the temporary file of the key store. -/
def besideKeys : Context :=
  .standard .standard ⟨"/keys.json", "/keys.tmp"⟩ ⟨0⟩ fun _ => ""

/-- A disk with a key store of one key, which the marker names. -/
def markedDisk : Disk :=
  ⟨[(["keys.json"], .file
      "\x7b\"keys\":[\x7b\"name\":\"a\",\"key\":\"k\",\"createdAt\":\"2024-01-01T00:00:00Z\"\x7d]\x7d".toUTF8
      Disk.fileMode),
    (["keys.tmp"], .file "a".toUTF8 Disk.fileMode)]⟩

/-- On disk, two different paths are not enough: choosing a default deletes a marker that is the temporary
file of the key store. -/
theorem marker_lost_besideKeys :
    let w := World.fresh none { Host.Machine.bare with disk := markedDisk } []
    besideKeys.vault.path ≠ besideKeys.marker.path ∧
      w.Distinct besideKeys.marker.path besideKeys.vault.path ∧
      (besideKeys.marker.get? w).map KeyName.value = some "a" ∧
      (besideKeys.execute (.use "a") w).1.isOk = true ∧
      ((besideKeys.execute (.use "a") w).2.file? besideKeys.marker.path).isNone = true := by
  decide +kernel

end Context
end Keyring
