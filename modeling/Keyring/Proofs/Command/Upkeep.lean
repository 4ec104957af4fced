import Keyring.Proofs.Command.Ordinary

/-!
# What every command keeps of the key store

As long as no call fails, the file of the key store is either absent, or it is private and holds exactly
what a save of a sound collection writes.  Each step of each command keeps that, whether it succeeds or
not: new keys are sound because of what is checked and trimmed before they are stored, and stored keys are
sound because they were.  So it holds throughout every session: `Session.canonical_after`.

The marker must not be kept in the file of the key store.  It is written and deleted without regard to what
is there: `Session.unloadable_oneFile`.
-/

namespace Keyring

open World (KeepsFile Rests SameSetting)

namespace World

variable {w : World} {path other : String}

theorem Distinct.symm
    (h : w.Distinct path other) :
    w.Distinct other path := by
  unfold Distinct at h ⊢
  split
  · next hmemory =>
      rw [if_pos hmemory] at h
      exact h.symm
  · next hmemory =>
      rw [if_neg hmemory] at h
      exact h.symm

end World

namespace Vault

variable {v : Vault} {keys : Collection} {w w' : World}

/-- Whether the file of the key store is absent, or private, visible and what a save of a sound collection
writes. -/
def Canonical (v : Vault) (w : World) : Prop :=
  w.file? v.path = none ∨
    ∃ keys text,
      keys.Sound ∧ toText? keys = some text ∧
      w.file? v.path = some ⟨text.toUTF8, some privateMode⟩ ∧
      w.fileSight v.path = some (some text.toUTF8)

theorem Canonical.of_keepsFile
    (h : v.Canonical w)
    (hkept : KeepsFile v.path w w') :
    v.Canonical w' := by
  rcases h with habsent | ⟨keys, text, hsound, htext, hfile, hseen⟩
  · exact .inl (hkept.file.trans habsent)
  · exact .inr ⟨keys, text, hsound, htext, hkept.file.trans hfile, hkept.shown _ hseen⟩

/-- A sound collection is loaded from the text that a save of it writes. -/
theorem ofText_of_sound
    {text : String}
    (hsound : keys.Sound)
    (htext : toText? keys = some text) :
    v.ofText text = .ok keys := by
  obtain ⟨text', htext', hread⟩ := v.ofText_toText?_of_sound hsound
  cases htext.symm.trans htext'
  exact hread

/-- A canonical key store that can be loaded holds sound keys. -/
theorem Canonical.sound
    (h : v.Canonical w)
    (hcontents : v.contents w = .ok keys) :
    keys.Sound := by
  rcases fileSight_of_contents hcontents with ⟨-, rfl⟩ | ⟨text, hseen, hread⟩
  · exact .empty
  · rcases h with habsent | ⟨after, text', hsound, htext, -, hseen'⟩
    · obtain ⟨mode, hfile⟩ := World.exists_file?_of_fileSight hseen
      rw [habsent] at hfile
      cases hfile
    · cases String.toByteArray_inj.1 (Option.some.inj (Option.some.inj (hseen.symm.trans hseen')))
      cases hread.symm.trans (ofText_of_sound hsound htext)
      exact hsound

/-- A sound collection that has been saved makes the key store canonical. -/
theorem Saved.canonical
    (h : v.Saved keys w w')
    (hsound : keys.Sound) :
    v.Canonical w' := by
  obtain ⟨w₁, w₂, -, hsave, hafter⟩ := h
  obtain ⟨text, htext, -⟩ := v.ofText_toText?_of_sound hsound
  obtain ⟨hfile, hseen⟩ := file?_of_save htext hsave
  have hcanonical : v.Canonical w₂ := .inr ⟨keys, text, hsound, htext, hfile, hseen⟩
  exact hcanonical.of_keepsFile (.of_rests hafter)

end Vault

namespace Context

variable {c : Context} {keys : Collection} {w₀ w : World}

/-- Whatever a command makes of the files, the key store is canonical afterwards. -/
theorem Effect.canonical
    (hdistinct : w₀.Distinct c.vault.path c.marker.path)
    (hspare : w₀.Spares c.vault.path)
    (hsound : keys.Sound)
    (hcanonical : c.vault.Canonical w₀)
    (h : c.Effect keys w₀ w) :
    c.vault.Canonical w := by
  cases h with
  | untouched hrests => exact hcanonical.of_keepsFile (.of_rests hrests)
  | stored hnames hafter hsaved => exact hsaved.canonical hafter
  | removed hsaved hother => exact hsaved.canonical (hsound.remove _)
  | @forgotten name w₁ hsaved hmarked =>
      have hcleared := Marker.keepsFile_clear (m := c.marker) (hsaved.sameSetting.distinct hdistinct)
      exact (hsaved.canonical (hsound.remove name)).of_keepsFile hcleared
  | @remembered name w₁ hname hidle =>
      have hkept := hcanonical.of_keepsFile (keepsFile_of_idle hspare hidle)
      have hother := (sameSetting_of_idle hidle).distinct hdistinct
      cases hwrite : FileSystem.write c.marker.path name.value w₁ with
      | mk outcome w₂ =>
          rcases World.keepsFile_or_lost_of_write hother hwrite with hsame | hlost
          · exact hkept.of_keepsFile hsame
          · exact .inl hlost

end Context

/-- A command of a session keeps the key store canonical. -/
theorem Turn.canonical_take
    {t : Turn}
    {paths : StorePaths}
    {w : World}
    (hdistinct : w.Distinct paths.keys paths.lastUsed)
    (htrusted : w.Trusted)
    (hordinary : t.Ordinary paths w)
    (hcanonical : (⟨paths.keys⟩ : Vault).Canonical w) :
    (⟨paths.keys⟩ : Vault).Canonical (t.take paths w).2 := by
  have hfound : (t.context paths).vault.Canonical (t.found w) :=
    hcanonical.of_keepsFile (hordinary.keeps paths.keys List.mem_cons_self)
  have hspare := hordinary.spares paths.keys List.mem_cons_self
  have hapart : (t.found w).Distinct (t.context paths).vault.path (t.context paths).marker.path :=
    distinct_found hdistinct
  rcases affected_or_kept hordinary htrusted fun _ => hfound.sound with ⟨keys, hholds, haffected⟩ | hkept
  · obtain ⟨w₁, heffect, hafter⟩ := haffected.exists_effect
    have hstored := heffect.canonical hapart hspare hholds.sound hfound
    exact hstored.of_keepsFile (hafter paths.keys hspare)
  · exact hcanonical.of_keepsFile (hkept paths.keys List.mem_cons_self)

namespace Session

/-- Where no call fails and the clock is in range, every session that starts without a key store keeps it
canonical, as long as the marker is kept in another file. -/
theorem canonical_and_trusted
    {paths : StorePaths}
    {turns : List Turn}
    {w₀ : World}
    (hdistinct : w₀.Distinct paths.keys paths.lastUsed)
    (htrusted : w₀.Trusted)
    (hkeys : w₀.file? paths.keys = none)
    (hordinary : Ordinary paths turns w₀) :
    (⟨paths.keys⟩ : Vault).Canonical (after paths turns w₀) ∧ (after paths turns w₀).Trusted := by
  let Kept := fun w : World =>
    (⟨paths.keys⟩ : Vault).Canonical w ∧ w.Trusted ∧ w.Distinct paths.keys paths.lastUsed
  have hstep : ∀ (t : Turn) w, t.Ordinary paths w → Kept w → Kept (t.take paths w).2 := by
    rintro t w hturn ⟨hcanonical, htrust, hapart⟩
    exact ⟨Turn.canonical_take hapart htrust hturn hcanonical, Turn.trusted_take htrust,
      (t.sameSetting_take paths w).distinct (Turn.distinct_found hapart)⟩
  obtain ⟨hcanonical, htrust, -⟩ := invariant hstep hordinary ⟨.inl hkeys, htrusted, hdistinct⟩
  exact ⟨hcanonical, htrust⟩

/-- In every state of every session that starts without a key store, the file of the key store is absent, or
private and what a save of the collection that it loads to writes, wherever no call fails.  All keys are then
as they could have been given on the command line. -/
theorem canonical_after
    {paths : StorePaths}
    {turns : List Turn}
    {w₀ : World}
    (hdistinct : w₀.Distinct paths.keys paths.lastUsed)
    (htrusted : w₀.Trusted)
    (hkeys : w₀.file? paths.keys = none)
    (hordinary : Ordinary paths turns w₀) :
    let v : Vault := ⟨paths.keys⟩
    let w := after paths turns w₀
    w.file? paths.keys = none ∨
      ∃ keys content,
        v.load w = (.ok keys, w) ∧ w.file? paths.keys = some ⟨content, some 0o600⟩ ∧
        (∀ w₁, v.Reliable w₁ →
          ∃ w₂, v.save keys w₁ = (.ok (), w₂) ∧ w₂.file? paths.keys = some ⟨content, some 0o600⟩) ∧
        keys.names.Nodup ∧ (∀ name ∈ keys.defaultName, name ∈ keys.names) ∧
        ∀ p ∈ keys.keys,
          KeyName.ofText p.name.value = .ok p.name ∧
          Text.IsFilled p.secret ∧
          (∀ note ∈ p.note, Text.IsFilled note) ∧
          ∀ url ∈ p.baseUrl, Text.IsFilled url.value ∧ Url.fault? url.value = none := by
  intro v w
  obtain ⟨hcanonical, htrust⟩ := canonical_and_trusted hdistinct htrusted hkeys hordinary
  rcases hcanonical with habsent | ⟨keys, text, hsound, htext, hfile, hseen⟩
  · exact .inl habsent
  · have hread := v.contents_of_fileSight (LawfulFileSystem.readableAt htrust.readable v.path) hseen
    have hcontents : v.contents w = .ok keys := hread.trans (Vault.ofText_of_sound hsound htext)
    refine .inr ⟨keys, text.toUTF8, Vault.load_of_contents hcontents, hfile, fun w₁ hreliable => ?_,
      keys.names_nodup, keys.default_mem, fun p hp => ?_⟩
    · obtain ⟨w₂, hsave⟩ := hreliable.exists_save htext
      exact ⟨w₂, hsave, (Vault.file?_of_save htext hsave).1⟩
    · exact ⟨p.name.ofText_value, (hsound p hp).secret, (hsound p hp).note,
        fun url hurl => Profile.sound_baseUrl hurl⟩

/-- Whether a disk holds nothing but one file, at the root. -/
def holdsOnly (name : String) (d : Disk) : Bool :=
  match d.nodes with
  | [(place, .file _ _)] => place == [name]
  | _ => false

/-- On a disk with a key store and nothing else there is room for every text of it. -/
theorem stores_of_holdsOnly
    {d : Disk}
    (h : holdsOnly "keys.json" d = true) :
    ∀ text, ((⟨"/keys.json"⟩ : Vault).writePrivate text d).1 = .ok () := by
  obtain ⟨nodes⟩ := d
  unfold holdsOnly at h
  split at h
  · next place content mode hnodes =>
      obtain rfl := beq_iff_eq.1 h
      simp only at hnodes
      rw [hnodes]
      exact fun _ => rfl
  · cases h

theorem stores_empty :
    ∀ text, ((⟨"/keys.json"⟩ : Vault).writePrivate text Disk.empty).1 = .ok () :=
  fun _ => rfl

/-- A key is added, with blanks around what is given. -/
def blankAddition : Turn :=
  .simple (.add ⟨" a ", some " s\t", some "", some "x\ny \n", false⟩)

/-- A key is added, and another is not for want of a secret. -/
def twoAdditions : List Turn :=
  [blankAddition, .simple (.add ⟨"b", some "-", none, none, false⟩)]

theorem canonical_after_twoAdditions :
    ∃ keys content,
      let w := after ⟨"/keys.json", "/last_used"⟩ twoAdditions (.fresh none .bare [])
      (⟨"/keys.json"⟩ : Vault).load w = (.ok keys, w) ∧
        w.file? "/keys.json" = some ⟨content, some 0o600⟩ ∧
        ∀ p ∈ keys.keys, Text.IsFilled p.secret := by
  let paths : StorePaths := ⟨"/keys.json", "/last_used"⟩
  let w₀ := World.fresh none .bare []
  have hordinary : Ordinary paths twoAdditions w₀ := by
    have hprograms := (blankAddition.sameSetting_take paths w₀).programs
    have hstored : holdsOnly "keys.json" (blankAddition.take paths w₀).2.machine.disk = true := by
      decide +kernel
    exact ⟨Turn.ordinary_simple rfl fun _ => stores_empty,
      Turn.ordinary_simple hprograms fun _ => stores_of_holdsOnly hstored, trivial⟩
  have hwritten : ((after paths twoAdditions w₀).file? "/keys.json").isSome = true := by
    decide +kernel
  rcases @canonical_after paths twoAdditions w₀ (by decide +kernel) nofun (by decide +kernel)
    hordinary with habsent | ⟨keys, content, hload, hfile, -, -, -, hkeys⟩
  · rw [habsent] at hwritten
    cases hwritten
  · exact ⟨keys, content, hload, hfile, fun p hp => (hkeys p hp).2.1⟩

/-- A key is added and used. -/
def usedOnce : List Turn :=
  [.simple (.add ⟨"a", some "s", none, none, false⟩), .simple (.run ⟨some "a", false, []⟩)]

/-- What that leaves of a world without files. -/
def afterUse (memory : Option Memory) (paths : StorePaths) : World :=
  after paths usedOnce (.fresh memory .bare [])

/-- Where one file is both the key store and the marker, using a key leaves its name there and no key store. -/
theorem unloadable_oneFile :
    let w := afterUse (some .empty) ⟨"keys.json", "keys.json"⟩
    (w.file? "keys.json").isSome = true ∧ ((⟨"keys.json"⟩ : Vault).load w).1.isOk = false := by
  decide +kernel

end Session
end Keyring
