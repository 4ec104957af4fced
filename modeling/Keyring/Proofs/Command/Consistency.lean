import Keyring.Proofs.Command.Upkeep

/-!
# How the two files stay in step

As long as no call fails, the marker is either absent or holds the name of a stored key.  No command sees
to that alone: launching writes names that have been found in the key store, removing a key deletes the
marker if it holds that name, and everything else leaves all names where they are.
So it holds throughout every session: `Session.marker_never_dangles`.

The key store must be apart from the marker: in another file, which on disk is not the temporary one in
writing the marker either.  Nothing sees to that: `Session.dangling_meetingPaths`.
-/

namespace Keyring

open LawfulFileSystem (readableAt)
open World (KeepsFile Rests SameSetting)

namespace Vault

/-- A save keeps every other file, or loses it. -/
theorem Saved.keepsFile_or_lost
    {v : Vault}
    {keys : Collection}
    {path : String}
    {w w' : World}
    (h : v.Saved keys w w')
    (hother : w.Distinct path v.path) :
    KeepsFile path w w' ∨ w'.file? path = none := by
  obtain ⟨w₁, w₂, hbefore, hsave, hafter⟩ := h
  have hafterKept : KeepsFile path w₂ w' := .of_rests hafter
  rcases keepsFile_or_lost_of_save ((SameSetting.of_rests hbefore).distinct hother) hsave with hkept | hlost
  · exact .inl ((KeepsFile.of_rests hbefore).trans (hkept.trans hafterKept))
  · exact .inr (hafterKept.file.trans hlost)

end Vault

namespace Marker

variable {m : Marker} {v : Vault} {keys after : Collection} {w w' : World}

/-- Whether there is no marker, or it can be seen and holds the name of a stored key. -/
def NamesStored (m : Marker) (v : Vault) (w : World) : Prop :=
  w.file? m.path = none ∨
    ∃ name keys,
      w.fileSight m.path = some (some name.value.toUTF8) ∧ v.contents w = .ok keys ∧ name ∈ keys.names

theorem NamesStored.of_keepsFile
    (h : m.NamesStored v w)
    (htrusted : w'.Trusted)
    (hmarker : KeepsFile m.path w w')
    (hkeys : KeepsFile v.path w w') :
    m.NamesStored v w' := by
  rcases h with habsent | ⟨name, keys, hseen, hcontents, hname⟩
  · exact .inl (hmarker.file.trans habsent)
  · have hreadable := readableAt htrusted.readable v.path
    exact .inr ⟨name, keys, hmarker.shown _ hseen,
      Vault.contents_of_keepsFile hreadable hkeys hcontents hname, hname⟩

/-- A marker that can be seen to hold a name names it, as long as no call fails. -/
theorem get?_of_trusted
    {name : KeyName}
    (htrusted : w.Trusted)
    (h : w.fileSight m.path = some (some name.value.toUTF8)) :
    m.get? w = some name := by
  rcases get?_of_fileSight h with hget | ⟨hunreadable, -⟩
  · exact hget
  · exact absurd (readableAt htrusted.readable m.path) hunreadable

/-- The marker still holds the name of a stored key when keys have been saved among which that name is. -/
theorem NamesStored.of_saved
    (h : m.NamesStored v w)
    (hdistinct : w.Distinct m.path v.path)
    (htrusted : w.Trusted)
    (hcontents : v.contents w = .ok keys)
    (hsound : after.Sound)
    (hsaved : v.Saved after w w')
    (hnames : ∀ name ∈ keys.names, m.get? w' = some name → name ∈ after.names) :
    m.NamesStored v w' := by
  rcases hsaved.keepsFile_or_lost hdistinct with hkept | hlost
  · rcases h with habsent | ⟨name, found, hseen, hfound, hname⟩
    · exact .inl (hkept.file.trans habsent)
    · cases hcontents.symm.trans hfound
      have hseen' := hkept.shown _ hseen
      have hget := get?_of_trusted (hsaved.sameSetting.trusted htrusted) hseen'
      exact .inr ⟨name, after, hseen', hsaved.contents htrusted hsound, hnames name hname hget⟩
  · exact .inl hlost

end Marker

namespace Context

variable {c : Context} {keys : Collection} {w₀ w : World}

/-- A name of a stored key can be written into the marker, and the marker is consistent whether that
succeeds or not. -/
theorem namesStored_of_write
    {name : KeyName}
    (hapart : w.Apart c.vault.path c.marker.path)
    (htrusted : w.Trusted)
    (hcontents : c.vault.contents w = .ok keys)
    (hname : name ∈ keys.names)
    (h : c.marker.NamesStored c.vault w) :
    c.marker.NamesStored c.vault (FileSystem.write c.marker.path name.value w).2 := by
  cases hwrite : FileSystem.write c.marker.path name.value w with
  | mk outcome w' =>
      have htrusted' := (World.sameSetting_of_write hwrite).trusted htrusted
      have hkeys := World.keepsFile_of_write hapart hwrite
      cases outcome with
      | ok u =>
          have hreadable := readableAt htrusted'.readable c.vault.path
          exact .inr ⟨name, keys, (World.file?_of_write hwrite).2,
            Vault.contents_of_keepsFile hreadable hkeys hcontents hname, hname⟩
      | error fault =>
          rcases World.keepsFile_or_lost_of_error c.marker.path hwrite with hkept | ⟨-, -, hlost⟩
          · exact h.of_keepsFile htrusted' hkept hkeys
          · exact .inl hlost

/-- Whatever a command makes of the files, the marker names a stored key afterwards if it did before. -/
theorem Effect.namesStored
    (hapart : w₀.Apart c.vault.path c.marker.path)
    (hspareKeys : w₀.Spares c.vault.path)
    (hspareMarker : w₀.Spares c.marker.path)
    (hholds : c.vault.Holds keys w₀)
    (hmarked : c.marker.NamesStored c.vault w₀)
    (h : c.Effect keys w₀ w) :
    c.marker.NamesStored c.vault w := by
  have htrusted := hholds.reliable.trusted
  have hdistinct := hapart.distinct.symm
  have hafter := h.sameSetting.trusted htrusted
  cases h with
  | untouched hrests => exact hmarked.of_keepsFile hafter (.of_rests hrests) (.of_rests hrests)
  | stored hnames hsound hsaved =>
      exact hmarked.of_saved hdistinct htrusted hholds.contents hsound hsaved fun _ hname _ => hnames hname
  | @removed name w₁ hsaved hother =>
      refine hmarked.of_saved hdistinct htrusted hholds.contents (hholds.sound.remove name) hsaved
        fun n hname hget => ?_
      -- The marker holds another name than the one that has been removed.
      refine Collection.mem_names_remove.2 ⟨hname, ?_⟩
      rintro rfl
      exact hother hget
  | @forgotten name w₁ hsaved hmarker =>
      rcases Marker.file?_clear hmarker with hgone | ⟨⟨files, hfiles, hfails⟩, -⟩
      · exact .inl hgone
      · have hworks : files.fails .remove c.marker.path = false :=
          hsaved.sameSetting.trusted htrusted files hfiles _ _ _
        rw [hworks] at hfails
        cases hfails
  | @remembered name w₁ hname hidle =>
      have hsetting := sameSetting_of_idle hidle
      have htrusted₁ := hsetting.trusted htrusted
      have hkeys := keepsFile_of_idle hspareKeys hidle
      have hcontents := Vault.contents_of_keepsFile (readableAt htrusted₁.readable c.vault.path) hkeys
        hholds.contents hname
      exact namesStored_of_write (hsetting.apart hapart) htrusted₁ hcontents hname
        (hmarked.of_keepsFile htrusted₁ (keepsFile_of_idle hspareMarker hidle) hkeys)

end Context

/-- A command of a session keeps the marker consistent. -/
theorem Turn.namesStored_take
    {t : Turn}
    {paths : StorePaths}
    {w : World}
    (hapart : w.Apart paths.keys paths.lastUsed)
    (htrusted : w.Trusted)
    (hordinary : t.Ordinary paths w)
    (hcanonical : (⟨paths.keys⟩ : Vault).Canonical w)
    (hmarked : (⟨paths.lastUsed⟩ : Marker).NamesStored ⟨paths.keys⟩ w) :
    (⟨paths.lastUsed⟩ : Marker).NamesStored ⟨paths.keys⟩ (t.take paths w).2 := by
  have hlast : paths.lastUsed ∈ [paths.keys, paths.lastUsed] := List.mem_cons_of_mem _ List.mem_cons_self
  have hspareKeys := hordinary.spares paths.keys List.mem_cons_self
  have hspareMarker := hordinary.spares paths.lastUsed hlast
  have hfound : (t.context paths).vault.Canonical (t.found w) :=
    hcanonical.of_keepsFile (hordinary.keeps paths.keys List.mem_cons_self)
  have hmarkedFound : (t.context paths).marker.NamesStored (t.context paths).vault (t.found w) :=
    hmarked.of_keepsFile htrusted (hordinary.keeps paths.lastUsed hlast)
      (hordinary.keeps paths.keys List.mem_cons_self)
  have hapartFound : (t.found w).Apart (t.context paths).vault.path (t.context paths).marker.path :=
    ⟨distinct_found hapart.distinct, hapart.beside⟩
  rcases affected_or_kept hordinary htrusted fun _ => hfound.sound with ⟨keys, hholds, haffected⟩ | hkept
  · obtain ⟨w₁, heffect, hafter⟩ := haffected.exists_effect
    have hnamed := heffect.namesStored hapartFound hspareKeys hspareMarker hholds hmarkedFound
    exact hnamed.of_keepsFile (trusted_take htrusted) (hafter paths.lastUsed hspareMarker)
      (hafter paths.keys hspareKeys)
  · exact hmarked.of_keepsFile (trusted_take htrusted) (hkept paths.lastUsed hlast)
      (hkept paths.keys List.mem_cons_self)

namespace Session

/-- Where no call fails and the clock is in range, there is no marker in any state of any session that starts
without files, or it holds a name, and a key of that name is in the key store at that moment; provided that
the key store is apart from the marker. -/
theorem marker_never_dangles
    {paths : StorePaths}
    {turns : List Turn}
    {w₀ : World}
    (hapart : w₀.Apart paths.keys paths.lastUsed)
    (htrusted : w₀.Trusted)
    (hkeys : w₀.file? paths.keys = none)
    (hmarker : w₀.file? paths.lastUsed = none)
    (hordinary : Ordinary paths turns w₀) :
    let w := after paths turns w₀
    w.file? paths.lastUsed = none ∨
      ∃ name keys,
        (⟨paths.lastUsed⟩ : Marker).get? w = some name ∧
        (⟨paths.keys⟩ : Vault).load w = (.ok keys, w) ∧
        name ∈ keys.names := by
  intro w
  let Kept := fun w : World =>
    (⟨paths.lastUsed⟩ : Marker).NamesStored ⟨paths.keys⟩ w ∧ (⟨paths.keys⟩ : Vault).Canonical w ∧
      w.Trusted ∧ w.Apart paths.keys paths.lastUsed
  have hstep : ∀ (t : Turn) w, t.Ordinary paths w → Kept w → Kept (t.take paths w).2 := by
    rintro t w hturn ⟨hmarked, hcanonical, htrust, happart⟩
    have hfound : (t.found w).Apart paths.keys paths.lastUsed :=
      ⟨Turn.distinct_found happart.distinct, happart.beside⟩
    exact ⟨Turn.namesStored_take happart htrust hturn hcanonical hmarked,
      Turn.canonical_take happart.distinct htrust hturn hcanonical, Turn.trusted_take htrust,
      (t.sameSetting_take paths w).apart hfound⟩
  obtain ⟨hmarked, -, htrust, -⟩ := invariant hstep hordinary ⟨.inl hmarker, .inl hkeys, htrusted, hapart⟩
  rcases hmarked with habsent | ⟨name, keys, hseen, hcontents, hname⟩
  · exact .inl habsent
  · exact .inr ⟨name, keys, Marker.get?_of_trusted htrust hseen, Vault.load_of_contents hcontents, hname⟩

/-- A key is used, and then its secret is replaced. -/
def replacedAfterUse : List Turn :=
  [.simple (.add ⟨"a", some "s", none, none, false⟩),
    .simple (.run ⟨some "a", false, []⟩),
    .simple (.add ⟨"a", some "t", none, none, true⟩)]

theorem marker_never_dangles_replacedAfterUse :
    ∃ name keys,
      let w := after ⟨"keys.json", "last_used"⟩ replacedAfterUse (.fresh (some .empty) .bare [])
      (⟨"last_used"⟩ : Marker).get? w = some name ∧
        (⟨"keys.json"⟩ : Vault).load w = (.ok keys, w) ∧ name ∈ keys.names := by
  let paths : StorePaths := ⟨"keys.json", "last_used"⟩
  let w₀ := World.fresh (some .empty) .bare []
  have hclock : ∀ t ∈ replacedAfterUse, t.now.InStoredRange := by decide +kernel
  have hapart : w₀.Apart paths.keys paths.lastUsed := ⟨by decide +kernel, nofun⟩
  have htrusted : w₀.Trusted := World.trusted_fresh .bare []
  have hwritten : ((after paths replacedAfterUse w₀).file? "last_used").isSome = true := by
    decide +kernel
  rcases marker_never_dangles hapart htrusted rfl rfl (ordinary_of_memory rfl hclock) with
    habsent | ⟨name, keys, hget, hload, hname⟩
  · rw [habsent] at hwritten
    cases hwritten
  · exact ⟨name, keys, hget, hload, hname⟩

/-- A marker that has just been written names no stored key where it is kept in the file of the key store, or
where on disk the key store is the temporary file in writing it. -/
theorem dangling_meetingPaths :
    let w := afterUse (some .empty) ⟨"keys.json", "keys.json"⟩
    let w' := afterUse none ⟨"/last_used.tmp", "/last_used"⟩
    (((⟨"keys.json"⟩ : Marker).get? w).map KeyName.value = some "a" ∧
        ((⟨"keys.json"⟩ : Vault).load w).1.isOk = false) ∧
      ((⟨"/last_used"⟩ : Marker).get? w').map KeyName.value = some "a" ∧
        ((⟨"/last_used.tmp"⟩ : Vault).load w').1.toOption.map Collection.names = some [] := by
  decide +kernel

end Session
end Keyring
