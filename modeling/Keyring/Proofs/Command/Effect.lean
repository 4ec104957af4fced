import Keyring.Proofs.Action.Triple
import Keyring.Proofs.Command.Steps
import Keyring.Proofs.Key.Description
import Keyring.Proofs.Launcher
import Keyring.Proofs.Resolution
import Keyring.Proofs.Store.Files
import Keyring.Proofs.Store.Sound

/-!
# What commands do where no call fails

As long as no call on the key store fails and it holds sound keys, a command does one of five things to the
files: `Context.Effect` lists them.  A command that stops early has done nothing at all, unless it is the
launched program that did not succeed: `Context.ensures_execute`.

What holds throughout a session follows from the five cases, and need not be traced through the commands
again.
-/

namespace Keyring

open Keyring.Action (Ensures Keeps)
open World (Idle Rests)

/-- Whether no call on the key store fails: in memory none does, and on disk every text can be stored. -/
structure Vault.Reliable (v : Vault) (w : World) : Prop where
  trusted : w.Trusted
  stores : w.memory = none → ∀ text, (v.writePrivate text w.machine.disk).1 = .ok ()

/-- Whether no call on the key store fails, and it holds given keys, which are sound. -/
structure Vault.Holds (v : Vault) (keys : Collection) (w : World) : Prop where
  reliable : v.Reliable w
  contents : v.contents w = .ok keys
  sound : keys.Sound

/-- Whether a collection has been saved between two worlds, and nothing else has happened. -/
def Vault.Saved (v : Vault) (keys : Collection) (w w' : World) : Prop :=
  ∃ w₁ w₂, Rests w w₁ ∧ v.save keys w₁ = (.ok (), w₂) ∧ Rests w₂ w'

namespace Vault

variable {v : Vault} {keys after : Collection} {w₀ w w' : World}

theorem Reliable.of_rests
    (h : v.Reliable w)
    (hrests : Rests w w') :
    v.Reliable w' where
  trusted := (World.SameSetting.of_rests hrests).trusted h.trusted
  stores hdisk := by
    rw [hrests.machine]
    exact h.stores ((World.SameSetting.of_rests hrests).memory_eq_none_iff.1 hdisk)

/-- A collection that has a text is saved. -/
theorem Reliable.exists_save
    {text : String}
    (h : v.Reliable w)
    (htext : toText? keys = some text) :
    ∃ w₁, v.save keys w = (.ok (), w₁) := by
  cases hmemory : w.memory with
  | some m =>
      have hcalls : ∀ call, m.fails call v.path = false := fun call => h.trusted m hmemory _ _ _
      rw [v.save_of_memory keys hmemory, Memory.save_eq v hcalls htext]
      exact ⟨_, rfl⟩
  | none =>
      have hstored := h.stores hmemory text
      rw [save, htext]
      simp only [v.writePrivate_of_disk text hmemory, hstored]
      exact ⟨_, rfl⟩

theorem Holds.of_rests
    (h : v.Holds keys w)
    (hrests : Rests w w') :
    v.Holds keys w' where
  reliable := h.reliable.of_rests hrests
  contents :=
    contents_of_rests (LawfulFileSystem.readableAt (h.reliable.of_rests hrests).trusted.readable v.path)
      hrests h.contents
  sound := h.sound

theorem Saved.of_rests
    (h : v.Saved keys w₀ w)
    (hrests : Rests w w') :
    v.Saved keys w₀ w' := by
  obtain ⟨w₁, w₂, hbefore, hsave, hafter⟩ := h
  exact ⟨w₁, w₂, hbefore, hsave, hafter.trans hrests⟩

theorem Saved.sameSetting
    (h : v.Saved keys w w') :
    World.SameSetting w w' := by
  obtain ⟨w₁, w₂, hbefore, hsave, hafter⟩ := h
  exact ((World.SameSetting.of_rests hbefore).trans (sameSetting_of_save hsave)).trans (.of_rests hafter)

/-- The key store holds what has been saved. -/
theorem Saved.contents
    (h : v.Saved keys w w')
    (htrusted : w.Trusted)
    (hsound : keys.Sound) :
    v.contents w' = .ok keys := by
  have hreadable' := LawfulFileSystem.readableAt (h.sameSetting.trusted htrusted).readable v.path
  obtain ⟨w₁, w₂, hbefore, hsave, hafter⟩ := h
  have hreadable := ((World.SameSetting.of_rests hbefore).trusted htrusted).readable
  have hcontents := contents_of_save (LawfulFileSystem.readableAt hreadable v.path) hsound.inStoredRange hsave
  rw [hsound.atMillisecond_eq] at hcontents
  exact contents_of_rests hreadable' hafter hcontents

section Steps

variable (h : v.Holds keys w₀)

include h

theorem ensures_load :
    Ensures (Rests w₀) v.load (fun found w => found = keys ∧ Rests w₀ w) (fun _ _ => False) := by
  intro w hw
  rw [load_of_contents (h.of_rests hw).contents]
  constructor
  · rintro found w' ⟨⟩
    exact ⟨rfl, hw⟩
  · rintro e w' ⟨⟩

theorem ensures_save
    (hsound : after.Sound) :
    Ensures (Rests w₀) (v.save after) (fun _ => v.Saved after w₀) (fun _ _ => False) := by
  intro w hw
  obtain ⟨text, htext, -⟩ := v.ofText_toText?_of_sound hsound
  obtain ⟨w₁, hsave⟩ := (h.reliable.of_rests hw).exists_save htext
  rw [hsave]
  constructor
  · rintro u w' ⟨⟩
    exact ⟨w, w₁, hw, hsave, .refl w₁⟩
  · rintro e w' ⟨⟩

theorem ensures_find
    (name : KeyName) :
    Ensures (Rests w₀) (v.find name) (fun found w => found = keys.find? name ∧ Rests w₀ w)
      (fun _ _ => False) := by
  refine (ensures_load h).bind fun found => Ensures.assume ?_
  rintro rfl
  exact Ensures.pure fun w hw => ⟨rfl, hw⟩

theorem ensures_getDefault :
    Ensures (Rests w₀) v.getDefault (fun found w => found = keys.default? ∧ Rests w₀ w)
      (fun _ _ => False) := by
  refine (ensures_load h).bind fun found => Ensures.assume ?_
  rintro rfl
  exact Ensures.pure fun w hw => ⟨rfl, hw⟩

theorem ensures_add
    {key : Profile}
    (hkey : key.Sound) :
    Ensures (Rests w₀) (v.add key) (fun _ => v.Saved (keys.add key) w₀) (fun _ _ => False) := by
  refine (ensures_load h).bind fun found => Ensures.assume ?_
  rintro rfl
  exact ensures_save h (h.sound.add hkey)

theorem ensures_update
    {key : Profile}
    (hkey : key.Sound)
    (hupdated : updated keys key = some after) :
    Ensures (Rests w₀) (v.update key) (fun _ => v.Saved after w₀) (fun _ _ => False) := by
  refine (ensures_load h).bind fun found => Ensures.assume ?_
  rintro rfl
  simp only [hupdated]
  exact ensures_save h (h.sound.updated hkey hupdated)

theorem ensures_remove
    (name : KeyName) :
    Ensures (Rests w₀) (v.remove name) (fun _ => v.Saved (keys.remove name) w₀) (fun _ _ => False) := by
  refine (ensures_load h).bind fun found => Ensures.assume ?_
  rintro rfl
  exact (ensures_save h (h.sound.remove name)).bind fun _ => Ensures.pure fun _ hw => hw

/-- What has been saved can be loaded again later. -/
theorem ensures_getDefault_of_saved
    (hsound : after.Sound) :
    Ensures (v.Saved after w₀) v.getDefault (fun found w => found = after.default? ∧ v.Saved after w₀ w)
      (fun _ _ => False) := by
  intro w hw
  rw [getDefault, Action.bind_apply, load_of_contents (hw.contents h.reliable.trusted hsound)]
  constructor
  · rintro found w' ⟨⟩
    exact ⟨rfl, hw⟩
  · rintro e w' ⟨⟩

end Steps
end Vault

namespace Context

/-- What a command can do to the files where no call fails and the key store holds given keys: nothing, or
it saves keys among which no name is missing, or all keys but one, or that and deletes the marker because
it names that key, or it writes one of the names into the marker as far as that is possible. -/
inductive Effect (c : Context) (keys : Collection) (w₀ : World) : World → Prop
  | untouched
      {w : World}
      (hrests : Rests w₀ w) :
      Effect c keys w₀ w
  | stored
      {after : Collection} {w : World}
      (hnames : keys.names ⊆ after.names)
      (hsound : after.Sound)
      (hsaved : c.vault.Saved after w₀ w) :
      Effect c keys w₀ w
  | removed
      {name : KeyName} {w : World}
      (hsaved : c.vault.Saved (keys.remove name) w₀ w)
      (hother : c.marker.get? w ≠ some name) :
      Effect c keys w₀ w
  | forgotten
      {name : KeyName} {w : World}
      (hsaved : c.vault.Saved (keys.remove name) w₀ w)
      (hmarked : c.marker.get? w = some name) :
      Effect c keys w₀ (c.marker.clear w).2
  | remembered
      {name : KeyName} {w : World}
      (hname : name ∈ keys.names)
      (hidle : Idle w₀ w) :
      Effect c keys w₀ (FileSystem.write c.marker.path name.value w).2

/-- Whether the files are what a command can make of them, up to what programs have done that have been
started last. -/
def Affected (c : Context) (keys : Collection) (w₀ w : World) : Prop :=
  ∃ w₁, c.Effect keys w₀ w₁ ∧ w.memory = w₁.memory ∧ w₁.machine.Worked w.machine

/-- Whether nothing has been done to the files, and nothing has been launched; pickers may have been
started. -/
def Refused (w₀ w : World) : Prop :=
  Rests w₀ w ∨ Idle w₀ w

variable {c : Context} {keys : Collection} {w₀ w w' : World}

theorem Effect.affected
    (h : c.Effect keys w₀ w) :
    c.Affected keys w₀ w :=
  ⟨w, h, rfl, .refl⟩

theorem affected_of_refused
    (h : Refused w₀ w) :
    c.Affected keys w₀ w := by
  rcases h with hrests | hidle
  · exact (Effect.untouched hrests).affected
  · exact ⟨w₀, .untouched (.refl w₀), hidle.memory, hidle.machine⟩

section Steps

variable {α : Type}

theorem ensures_check
    (r : Except Failure α) :
    Ensures (Rests w₀) (Action.check r) (fun a w => r = .ok a ∧ Rests w₀ w) (fun _ => Refused w₀) :=
  Ensures.check (fun _ _ hr hw => ⟨hr, hw⟩) fun _ _ _ hw => .inl hw

theorem ensures_fail
    {Q : α → World → Prop}
    (f : Failure) :
    Ensures (Rests w₀) (Action.fail f) Q (fun _ => Refused w₀) :=
  Ensures.fail fun _ hw => .inl hw

theorem ensures_orCrash
    (r : Option α) :
    Ensures (Rests w₀) (Action.orCrash r) (fun _ => Rests w₀) (fun _ => Refused w₀) :=
  Ensures.orCrash (fun _ _ _ hw => hw) fun _ _ hw => .inl hw

/-- What outlasts time can be required at a later moment. -/
theorem ensures_later
    {P : World → Prop}
    {Q : α → World → Prop}
    {E : Abort → World → Prop}
    {x : Action World Abort α}
    (hP : ∀ w w', P w → Rests w w' → P w')
    (hx : Ensures P x Q E) :
    Ensures P (later x) Q E :=
  fun w hw => hx (FileSystem.elapse w) (hP w _ hw (.elapse w))

theorem ensures_confirm
    (name : KeyName)
    (wasDefault : Bool) :
    Ensures (Rests w₀) (Removal.confirm name wasDefault) (fun _ => Rests w₀) (fun _ => Refused w₀) := by
  intro w hw
  obtain ⟨agreed, w₁, hconfirm, hrests⟩ := exists_confirm name wasDefault w
  rw [hconfirm]
  constructor
  · rintro agreed' w' ⟨⟩
    exact hw.trans hrests
  · rintro abort w' ⟨⟩

/-- A secret that has been read is trimmed and not empty. -/
theorem isFilled_of_readSecret
    {spec secret : String}
    (h : readSecret spec w = (.ok secret, w')) :
    Text.IsFilled secret := by
  unfold readSecret at h
  split at h
  · next text w₁ hinput =>
      have htrimmed : Text.trimmed text = text := by
        unfold readInput at hinput
        split at hinput
        · cases hinput
          exact Text.trimmed_trimmed _
        · cases hinput
      split at h
      · cases h
      · next hempty =>
          cases h
          refine ⟨htrimmed, ?_⟩
          rintro rfl
          exact hempty rfl
  · cases h

theorem ensures_secretFrom
    (spec : String) :
    Ensures (Rests w₀) (secretFrom spec) (fun secret w => Text.IsFilled secret ∧ Rests w₀ w)
      (fun _ => Refused w₀) := by
  intro w hw
  have hrests := hw.trans (rests_readSecret spec w)
  unfold secretFrom
  split
  next result w₁ heq =>
    rw [heq] at hrests
    cases result with
    | error f =>
        constructor
        · rintro secret w' ⟨⟩
        · rintro e w' ⟨⟩
          exact .inl hrests
    | ok secret =>
        constructor
        · rintro secret' w' ⟨⟩
          exact ⟨isFilled_of_readSecret heq, hrests⟩
        · rintro e w' ⟨⟩

theorem sound_changeBaseUrl
    {change : KeyEdit}
    {key key' : Profile}
    (hkey : key.Sound)
    (h : change.changeBaseUrl key = .ok key') :
    key'.Sound := by
  unfold KeyEdit.changeBaseUrl at h
  split at h
  · cases h
    exact hkey
  · next raw _ =>
      cases hurl : KeyEdit.endpoint raw with
      | error f =>
          rw [hurl] at h
          cases h
      | ok url =>
          rw [hurl] at h
          cases h
          exact hkey.withBaseUrl url

theorem sound_changeNote
    (change : KeyEdit)
    {key : Profile}
    (hkey : key.Sound) :
    (change.changeNote key).Sound := by
  unfold KeyEdit.changeNote
  split
  · exact hkey
  · next raw _ =>
      refine hkey.withNote fun kept hkept => ?_
      rw [KeyEdit.noteOf, Option.mem_def] at hkept
      split at hkept
      · cases hkept
      · exact Text.isFilled_of_normalized? hkept

theorem ensures_changeSecret
    (change : KeyEdit)
    {key : Profile}
    (hkey : key.Sound) :
    Ensures (Rests w₀) (change.changeSecret key) (fun key' w => key'.Sound ∧ Rests w₀ w)
      (fun _ => Refused w₀) := by
  unfold KeyEdit.changeSecret
  split
  · exact Ensures.pure fun _ hw => ⟨hkey, hw⟩
  · next spec _ =>
      refine (ensures_secretFrom spec).bind fun secret => Ensures.assume fun hsecret => ?_
      exact Ensures.pure fun _ hw => ⟨hkey.withSecret hsecret, hw⟩

end Steps

section Commands

variable (h : c.vault.Holds keys w₀)

include h

/-- Storing a key never fails, and no name is missing afterwards. -/
theorem ensures_store
    {key : Profile}
    (hkey : key.Sound) :
    ∃ after, keys.names ⊆ after.names ∧ after.Sound ∧
      Ensures (Rests w₀) (c.store keys key) (fun _ => c.vault.Saved after w₀) (fun _ _ => False) := by
  unfold store
  split
  · obtain ⟨after, hupdated⟩ := keys.exists_updated key
    exact ⟨after, Collection.names_subset_updated hupdated, h.sound.updated hkey hupdated,
      Vault.ensures_update h hkey hupdated⟩
  · exact ⟨keys.add key, fun _ => Collection.mem_put_of_mem key, h.sound.add hkey, Vault.ensures_add h hkey⟩

theorem ensures_list :
    Ensures (Rests w₀) c.list (fun _ => c.Affected keys w₀) (fun _ => Refused w₀) := by
  refine (Vault.ensures_load h).of_never.bind fun found => Ensures.assume fun _ => ?_
  refine Ensures.bind (Q := fun _ => Rests w₀) (Ensures.view fun _ hw => hw) fun offset => ?_
  refine (ensures_orCrash _).bind fun _ => (ensures_orCrash _).bind fun _ => ?_
  exact Ensures.pure fun w hw => (Effect.untouched hw).affected

theorem ensures_current :
    Ensures (Rests w₀) c.current (fun _ => c.Affected keys w₀) (fun _ => Refused w₀) := by
  refine (Vault.ensures_getDefault h).of_never.bind fun found => Ensures.assume fun _ => ?_
  cases found with
  | none => exact Ensures.pure fun w hw => (Effect.untouched hw).affected
  | some key =>
      refine Ensures.bind (Q := fun _ => Rests w₀) (Ensures.view fun _ hw => hw) fun offset => ?_
      refine (ensures_orCrash _).bind fun _ => (ensures_orCrash _).bind fun _ => ?_
      exact Ensures.pure fun w hw => (Effect.untouched hw).affected

theorem ensures_add
    (hnow : c.now.InStoredRange)
    (new : NewKey) :
    Ensures (Rests w₀) (c.add new) (fun _ => c.Affected keys w₀) (fun _ => Refused w₀) := by
  refine (ensures_check _).bind fun name => Ensures.assume fun _ => ?_
  refine (ensures_check _).bind fun baseUrl => Ensures.assume fun _ => ?_
  refine (Vault.ensures_load h).of_never.bind fun before => Ensures.assume ?_
  rintro rfl
  refine .ite (fun _ => ensures_fail _) fun _ => ?_
  refine (ensures_secretFrom _).bind fun secret => Ensures.assume fun hsecret => ?_
  have hkey := Profile.Sound.create name baseUrl new.note hsecret hnow
  obtain ⟨after, hnames, hsound, hstore⟩ := ensures_store h hkey
  refine (ensures_later (fun _ _ => .trans) hstore).of_never.bind fun _ => ?_
  refine (Ensures.orCrash_of_exists (Profile.exists_description? hkey.createdAt _)).bind fun _ => ?_
  exact Ensures.pure fun w hw => (Effect.stored hnames hsound hw).affected

theorem ensures_edit
    (change : KeyEdit) :
    Ensures (Rests w₀) (c.edit change) (fun _ => c.Affected keys w₀) (fun _ => Refused w₀) := by
  refine (ensures_check _).bind fun name => Ensures.assume fun _ => ?_
  refine .ite (fun _ => ensures_fail _) fun _ => ?_
  refine (Vault.ensures_find h name).of_never.bind fun found => Ensures.assume ?_
  rintro rfl
  cases hfind : keys.find? name with
  | none => exact ensures_fail _
  | some old =>
      have hold : old.Sound := h.sound.of_find? hfind
      refine (ensures_check _).bind fun moved => Ensures.assume fun hmoved => ?_
      have hnoted := sound_changeNote change (sound_changeBaseUrl hold hmoved)
      refine (ensures_changeSecret change hnoted).bind fun key => Ensures.assume fun hkey => ?_
      obtain ⟨after, hupdated⟩ := keys.exists_updated key
      have hsound := h.sound.updated hkey hupdated
      have hupdate := Vault.ensures_update h hkey hupdated
      refine (ensures_later (fun _ _ => .trans) hupdate).of_never.bind fun _ => ?_
      -- From here on the key store holds the changed collection, so loading it once more cannot fail.
      have hreload := Vault.ensures_getDefault_of_saved h hsound
      refine (ensures_later (fun _ _ => .of_rests) hreload).of_never.bind fun standing => ?_
      refine Ensures.assume fun _ => ?_
      refine (Ensures.orCrash_of_exists (Profile.exists_description? hkey.createdAt _)).bind fun _ => ?_
      exact Ensures.pure fun w hw =>
        (Effect.stored (Collection.names_subset_updated hupdated) hsound hw).affected

theorem ensures_use
    (raw : String) :
    Ensures (Rests w₀) (c.use raw) (fun _ => c.Affected keys w₀) (fun _ => Refused w₀) := by
  refine (ensures_check _).bind fun name => Ensures.assume fun _ => ?_
  have hset : Ensures (Rests w₀) (c.vault.setDefault name) (fun _ => c.Affected keys w₀)
      (fun _ => Refused w₀) := by
    refine (Vault.ensures_load h).of_never.bind fun found => Ensures.assume ?_
    rintro rfl
    cases hchosen : found.setDefault? name with
    | none => exact ensures_fail _
    | some after =>
        have hsound := h.sound.setDefault? hchosen
        have hnames : found.names ⊆ after.names := by
          rw [Collection.names, Collection.names, (Collection.setDefault?_eq_some hchosen).1]
          exact fun _ hn => hn
        exact (Vault.ensures_save h hsound).mono (fun _ hw => hw)
          (fun _ w hw => (Effect.stored hnames hsound hw).affected) fun _ _ hfalse => hfalse.elim
  exact hset.bind fun _ => Ensures.pure fun _ hw => hw

theorem ensures_removeStored
    (name : KeyName)
    (wasDefault : Bool) :
    Ensures (Rests w₀) (c.removeStored name wasDefault) (fun _ => c.Affected keys w₀)
      (fun _ => Refused w₀) := by
  have hremove := Vault.ensures_remove h name
  refine (ensures_later (fun _ _ => .trans) hremove).of_never.bind fun _ => ?_
  have hforget : Ensures (c.vault.Saved (keys.remove name) w₀) (c.forget name)
      (fun _ => c.Affected keys w₀) (fun _ => Refused w₀) := by
    refine Ensures.change fun w hw => ?_
    split
    · next hmarked => exact (Effect.forgotten hw hmarked).affected
    · next hother => exact (Effect.removed hw hother).affected
  exact hforget.bind fun _ => Ensures.pure fun _ hw => hw

theorem ensures_remove
    (raw : String)
    (confirmed : Bool) :
    Ensures (Rests w₀) (c.remove raw confirmed) (fun _ => c.Affected keys w₀) (fun _ => Refused w₀) := by
  refine (ensures_check _).bind fun name => Ensures.assume fun _ => ?_
  refine (Vault.ensures_load h).of_never.bind fun found => Ensures.assume ?_
  rintro rfl
  have hdecided : ∀ agreed : Bool,
      Ensures (Rests w₀) (if agreed then c.removeStored name (found.isDefault name)
        else pure (Removal.cancelled name)) (fun _ => c.Affected found w₀) (fun _ => Refused w₀) :=
    fun agreed => .ite (fun _ => ensures_removeStored h name _)
      fun _ => Ensures.pure fun w hw => (Effect.untouched hw).affected
  refine .ite (fun _ => ?_) fun _ => ensures_fail _
  simp only
  split
  · exact (Ensures.pure fun _ hw => hw).bind hdecided
  · exact (ensures_confirm name _).bind hdecided

theorem ensures_resolve
    (request : Request) :
    Ensures (fun w => w = w₀) (c.chooser.resolve request) (fun _ => c.Affected keys w₀)
      (fun _ => Refused w₀) := by
  rintro w rfl
  constructor
  · intro resolved w' hresolve
    obtain ⟨found, w₁, hload, hstored, hidle, hremember⟩ := Chooser.exists_of_resolve_eq_ok hresolve
    cases hload.symm.trans h.contents
    rcases hremember with ⟨-, rfl⟩ | ⟨-, rfl⟩
    · exact affected_of_refused (.inr hidle)
    · exact (Effect.remembered (List.mem_map_of_mem hstored) hidle).affected
  · intro abort w' hresolve
    exact .inr (Chooser.idle_of_resolve_eq_error hresolve).2

end Commands

/-- What is left when a command stops early: it has done nothing, or the launched program did not
succeed. -/
def Stopped
    (c : Context)
    (keys : Collection)
    (w₀ : World)
    (abort : Abort)
    (w : World) :
    Prop :=
  Refused w₀ w ∨ (∃ f, abort = .failed f ∧ f.kind = .launch) ∧ c.Affected keys w₀ w

section Execution

theorem ensures_launchWith
    (resolved : Resolved)
    (arguments : List String) :
    Ensures (c.Affected keys w₀) (c.launchWith resolved arguments) (fun _ => c.Affected keys w₀)
      (c.Stopped keys w₀) := by
  rintro w ⟨w₁, heffect, hmemory₁, hmachine₁⟩
  let launch : Launch := ⟨c.config.command, arguments, resolved.bindings c.config.envPrefix⟩
  have hafter : c.Affected keys w₀ (c.launchWith resolved arguments w).2 :=
    ⟨w₁, heffect, (Launcher.memory_launch launch w c.launcher).trans hmemory₁,
      hmachine₁.trans (Launcher.worked_launch launch w c.launcher)⟩
  constructor
  · intro u w' hlaunch
    rwa [hlaunch] at hafter
  · intro abort w' hlaunch
    rw [hlaunch] at hafter
    exact .inr ⟨Launcher.kind_of_launch hlaunch, hafter⟩

theorem ensures_of_refused
    {α : Type}
    {x : Action World Abort α}
    {Q : α → World → Prop}
    (hx : Ensures (Rests w₀) x Q (fun _ => Refused w₀)) :
    Ensures (fun w => w = w₀) x Q (c.Stopped keys w₀) :=
  hx.mono (fun w hw => hw ▸ .refl w) (fun _ _ hq => hq) fun _ _ hrefused => .inl hrefused

variable (h : c.vault.Holds keys w₀)

include h

theorem ensures_run
    (request : LaunchRequest) :
    Ensures (fun w => w = w₀) (c.run request) (fun _ => c.Affected keys w₀) (c.Stopped keys w₀) := by
  have hresolve : Ensures (fun w => w = w₀) (c.chooser.resolve ⟨request.key, request.useDefault⟩)
      (fun _ => c.Affected keys w₀) (c.Stopped keys w₀) :=
    (ensures_resolve h _).mono (fun _ hw => hw) (fun _ _ hq => hq) fun _ _ hrefused => .inl hrefused
  refine hresolve.bind fun resolved => ?_
  exact (ensures_launchWith resolved request.arguments).bind fun _ => Ensures.pure fun _ hw => hw

/-- Where no call fails, a command that succeeds has done one of the five things, and one that stops
early has done nothing, unless it is the launched program that did not succeed. -/
theorem ensures_execute
    (hnow : c.now.InStoredRange)
    (command : Command) :
    Ensures (fun w => w = w₀) (c.execute command) (fun _ => c.Affected keys w₀) (c.Stopped keys w₀) := by
  cases command with
  | list => exact ensures_of_refused (ensures_list h)
  | current => exact ensures_of_refused (ensures_current h)
  | add new => exact ensures_of_refused (ensures_add h hnow new)
  | edit change => exact ensures_of_refused (ensures_edit h change)
  | remove raw confirmed => exact ensures_of_refused (ensures_remove h raw confirmed)
  | use raw => exact ensures_of_refused (ensures_use h raw)
  | run request => exact ensures_run h request
  | completion shell =>
      exact ensures_of_refused (Ensures.pure fun w hw => (Effect.untouched hw).affected)

/-- Where no call fails, a command does one of the five things, however it ends. -/
theorem affected_execute
    (hnow : c.now.InStoredRange)
    (command : Command) :
    c.Affected keys w₀ (c.execute command w₀).2 := by
  have hafter : Ensures (fun w => w = w₀) (c.execute command) (fun _ => c.Affected keys w₀)
      (fun _ => c.Affected keys w₀) := by
    refine (ensures_execute h hnow command).mono (fun _ hw => hw) (fun _ _ hq => hq) ?_
    rintro abort w (hrefused | ⟨-, haffected⟩)
    · exact affected_of_refused hrefused
    · exact haffected
  exact hafter.snd rfl

end Execution
end Context
end Keyring
