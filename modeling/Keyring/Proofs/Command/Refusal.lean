import Keyring.Proofs.Command.Consistency
import Keyring.Proofs.Store.Strictness

/-!
# Failed commands

As long as no call fails, a command that stops early has changed neither the key store nor the marker and has
launched nothing, unless it is the launched program that did not succeed: `Session.unchanged_by_failure`.

Commands rely on one thing for that.  Editing a key loads the key store again after it has been written, when
it is too late to stop without a trace, and that only succeeds because what had been loaded was sound.  So the
invariant is that no session ever makes a key store that loads to unsound keys.  It needs no assumption on
where the marker is kept: even in the file of the key store it only puts a name, and from a name nothing is
loaded.
-/

namespace Keyring

open World (KeepsFile)

namespace Vault

variable {v : Vault} {keys : Collection} {w w' : World}

/-- Whether the file of the key store, if there is one, holds what a save of a sound collection writes, or a
name. -/
def Orderly (v : Vault) (w : World) : Prop :=
  ∀ file ∈ w.file? v.path,
    (∃ keys text, keys.Sound ∧ toText? keys = some text ∧ file.content = text.toUTF8) ∨
      ∃ name : KeyName, file.content = name.value.toUTF8

theorem orderly_of_absent
    (h : w.file? v.path = none) :
    v.Orderly w := by
  intro file hfile
  rw [h] at hfile
  cases hfile

theorem Orderly.of_file?_eq
    (h : v.Orderly w)
    (hsame : w'.file? v.path = w.file? v.path) :
    v.Orderly w' := by
  intro file hfile
  rw [hsame] at hfile
  exact h file hfile

theorem Canonical.orderly
    (h : v.Canonical w) :
    v.Orderly w := by
  rcases h with habsent | ⟨keys, text, hsound, htext, hstored, -⟩
  · exact orderly_of_absent habsent
  · intro file hfile
    rw [hstored] at hfile
    cases hfile
    exact .inl ⟨keys, text, hsound, htext, rfl⟩

/-- What is loaded from an orderly key store is sound. -/
theorem Orderly.sound
    (h : v.Orderly w)
    (hcontents : v.contents w = .ok keys) :
    keys.Sound := by
  rcases fileSight_of_contents hcontents with ⟨-, rfl⟩ | ⟨text, hseen, hread⟩
  · exact .empty
  · obtain ⟨mode, hfile⟩ := World.exists_file?_of_fileSight hseen
    rcases h _ hfile with ⟨saved, text', hsound, htext, hcontent⟩ | ⟨name, hcontent⟩
    · cases String.toByteArray_inj.1 hcontent
      cases hread.symm.trans (ofText_of_sound hsound htext)
      exact hsound
    · cases String.toByteArray_inj.1 hcontent
      exact absurd hread (ofText_value_ne_ok name keys)

end Vault

/-- Whatever a command makes of the files, the key store is orderly afterwards. -/
theorem Context.Effect.orderly
    {c : Context}
    {keys : Collection}
    {w₀ w : World}
    (hspare : w₀.Spares c.vault.path)
    (hsound : keys.Sound)
    (horderly : c.vault.Orderly w₀)
    (h : c.Effect keys w₀ w) :
    c.vault.Orderly w := by
  cases h with
  | untouched hrests => exact horderly.of_file?_eq (KeepsFile.of_rests hrests).file
  | stored hnames hafter hsaved => exact (hsaved.canonical hafter).orderly
  | removed hsaved hother => exact (hsaved.canonical (hsound.remove _)).orderly
  | @forgotten name w₁ hsaved hmarked =>
      rcases Marker.file?_clear_cases c.vault.path hmarked with hsame | hgone
      · exact (hsaved.canonical (hsound.remove name)).orderly.of_file?_eq hsame
      · exact Vault.orderly_of_absent hgone
  | @remembered name w₁ hname hidle =>
      have hkept := horderly.of_file?_eq (keepsFile_of_idle hspare hidle).file
      cases hwrite : FileSystem.write c.marker.path name.value w₁ with
      | mk outcome w₂ =>
          rcases World.file?_of_write_cases c.vault.path hwrite with hsame | hgone | ⟨mode, hwritten⟩
          · exact hkept.of_file?_eq hsame
          · exact Vault.orderly_of_absent hgone
          · intro file hfile
            rw [hwritten] at hfile
            cases hfile
            exact .inr ⟨name, rfl⟩

namespace Turn

variable {t : Turn} {paths : StorePaths} {w w' : World}

theorem Ordinary.orderly_found
    (hordinary : t.Ordinary paths w)
    (h : (⟨paths.keys⟩ : Vault).Orderly w) :
    (t.context paths).vault.Orderly (t.found w) :=
  h.of_file?_eq (hordinary.keeps paths.keys List.mem_cons_self).file

/-- A command of a session keeps the key store orderly. -/
theorem orderly_take
    (htrusted : w.Trusted)
    (hordinary : t.Ordinary paths w)
    (horderly : (⟨paths.keys⟩ : Vault).Orderly w) :
    (⟨paths.keys⟩ : Vault).Orderly (t.take paths w).2 := by
  have hfound := hordinary.orderly_found horderly
  have hspare := hordinary.spares paths.keys List.mem_cons_self
  rcases affected_or_kept hordinary htrusted fun _ => hfound.sound with ⟨keys, hholds, haffected⟩ | hkept
  · obtain ⟨w₁, heffect, hafter⟩ := haffected.exists_effect
    have hstored := heffect.orderly hspare hholds.sound hfound
    exact hstored.of_file?_eq (hafter paths.keys hspare).file
  · exact horderly.of_file?_eq (hkept paths.keys List.mem_cons_self).file

/-- An ordinary command that stops early keeps both files and launches nothing, unless it is the launched
program that did not succeed. -/
theorem kept_or_launch
    {abort : Abort}
    (htrusted : w.Trusted)
    (hordinary : t.Ordinary paths w)
    (horderly : (⟨paths.keys⟩ : Vault).Orderly w)
    (hstops : t.take paths w = (.error abort, w')) :
    ((∀ path ∈ [paths.keys, paths.lastUsed], KeepsFile path w w') ∧ w'.launches = w.launches) ∨
      ∃ f, abort = .failed f ∧ f.kind = .launch := by
  have hfound := hordinary.orderly_found horderly
  rcases Context.refused_or_launch (hordinary.reliable htrusted) (fun _ => hfound.sound) hordinary.now
    hstops with hrefused | hlaunch
  · refine .inl ⟨fun path hpath => ?_, hrefused.launches.trans (launches_found t w)⟩
    exact (hordinary.keeps path hpath).trans (hrefused.keepsFile (hordinary.spares path hpath))
  · exact .inr hlaunch

end Turn

namespace Session

/-- Where no call fails and the clock is in range, in every state of every session that starts without a key
store, a command that stops early leaves the key store and the marker as they were, with their permissions,
and has launched nothing; unless what it reports is a failure of launching. -/
theorem unchanged_by_failure
    {paths : StorePaths}
    {turns : List Turn}
    {t : Turn}
    {w₀ w' : World}
    {abort : Abort}
    (htrusted : w₀.Trusted)
    (hkeys : w₀.file? paths.keys = none)
    (hordinary : Ordinary paths turns w₀)
    (hturn : t.Ordinary paths (after paths turns w₀))
    (hstops : t.take paths (after paths turns w₀) = (.error abort, w'))
    (hkind : ∀ f, abort = .failed f → f.kind ≠ .launch) :
    let w := after paths turns w₀
    KeepsFile paths.keys w w' ∧ KeepsFile paths.lastUsed w w' ∧ w'.launches = w.launches := by
  intro w
  have hstep : ∀ (t : Turn) w, t.Ordinary paths w → (⟨paths.keys⟩ : Vault).Orderly w ∧ w.Trusted →
      (⟨paths.keys⟩ : Vault).Orderly (t.take paths w).2 ∧ (t.take paths w).2.Trusted :=
    fun t w hturn hw => ⟨Turn.orderly_take hw.2 hturn hw.1, Turn.trusted_take hw.2⟩
  obtain ⟨horderly, htrust⟩ :=
    invariant hstep hordinary ⟨Vault.orderly_of_absent (v := ⟨paths.keys⟩) hkeys, htrusted⟩
  rcases Turn.kept_or_launch htrust hturn horderly hstops with ⟨hkept, hlaunches⟩ | ⟨f, hfailed, hlaunch⟩
  · exact ⟨hkept paths.keys List.mem_cons_self,
      hkept paths.lastUsed (List.mem_cons_of_mem _ List.mem_cons_self), hlaunches⟩
  · exact absurd hlaunch (hkind f hfailed)

/-- The kind of the failure that a command ends with. -/
def failureKind? : Except Abort Report → Option FailureKind
  | .ok _ => none
  | .error .crashed => none
  | .error (.failed f) => some f.kind

/-- The key of the edit is there, but its new secret is to come from a file that is not. -/
def secretMissing : Turn :=
  .simple (.edit ⟨"a", some "@nowhere", none, some "n"⟩)

theorem unchanged_by_failure_secretMissing :
    ∃ f w',
      let w := after ⟨"keys.json", "last_used"⟩ replacedAfterUse (.fresh (some .empty) .bare [])
      secretMissing.take ⟨"keys.json", "last_used"⟩ w = (.error (.failed f), w') ∧ f.kind ≠ .launch ∧
        KeepsFile "keys.json" w w' ∧ KeepsFile "last_used" w w' ∧ w'.launches = w.launches := by
  let paths : StorePaths := ⟨"keys.json", "last_used"⟩
  let w₀ := World.fresh (some .empty) .bare []
  have hclock : ∀ t ∈ replacedAfterUse, t.now.InStoredRange := by decide +kernel
  have htrusted : w₀.Trusted := World.trusted_fresh .bare []
  have hmemory : (after paths replacedAfterUse w₀).memory.isSome = true := by decide +kernel
  have hturn : secretMissing.Ordinary paths (after paths replacedAfterUse w₀) :=
    Turn.ordinary_of_memory hmemory (by decide +kernel)
  have hrefused : failureKind? (secretMissing.take paths (after paths replacedAfterUse w₀)).1 =
      some .validation := by
    decide +kernel
  cases htake : secretMissing.take paths (after paths replacedAfterUse w₀) with
  | mk result w' =>
      rw [htake] at hrefused
      cases result with
      | ok report => cases hrefused
      | error abort =>
          cases abort with
          | crashed => cases hrefused
          | failed f =>
              have hkind : f.kind ≠ .launch := by
                rw [Option.some.inj hrefused]
                decide
              have hunchanged := @unchanged_by_failure paths replacedAfterUse secretMissing w₀ w'
                (.failed f) htrusted rfl (ordinary_of_memory rfl hclock) hturn htake
                fun g hg => Abort.failed.inj hg ▸ hkind
              exact ⟨f, w', htake, hkind, hunchanged⟩

end Session
end Keyring
