import Keyring.Proofs.Resolution
import Keyring.Proofs.Selector.Dialogue

/-!
# The marker is a hint and no more

What the last-used marker holds never decides which key is launched.  Two worlds that differ at most in the
marker, and in whether it can be read and written, are compared:

* where a name is given or the default is asked for, the choice ends in the same way in both;
* where somebody is asked, it does so if both markers name the same stored key or neither names one, and
  the pickers do not look into the marker themselves.  Then the same selectors are asked the same questions
  with the same hint.

Each rule of `Chooser.Resolution` that applies in one world applies in the other
(`Chooser.Resolution.elsewhere`), and `Chooser.resolve_despite_marker` follows because the rules describe
the choice completely.
-/

namespace Keyring

open World (SameDialogue SameTo)

namespace Marker

variable {σ : Type} [FileSystem σ]

/-- Whether the marker names a key: it can be read, and the name is what is left of its text after
trimming. -/
def Names (m : Marker) (name : KeyName) (s : σ) : Prop :=
  FileSystem.present m.path s = true ∧
    ∃ text, FileSystem.read m.path s = .ok text ∧ Text.trimmed text = name.value

/-- A marker that is missing, cannot be read or holds something else names no key. -/
theorem get?_eq_some_iff
    {m : Marker}
    {name : KeyName}
    {s : σ} :
    m.get? s = some name ↔ m.Names name s := by
  unfold get? Names
  by_cases hpresent : FileSystem.present m.path s = true
  · rw [if_pos hpresent]
    cases hread : FileSystem.read m.path s with
    | error fault => simp
    | ok text =>
        have hname : ofText? text = some name ↔ Text.trimmed text = name.value := by
          rw [← KeyName.ofText_eq_ok_iff, ofText?]
          cases KeyName.ofText text with
          | error fault => simp [Except.toOption]
          | ok n => simp [Except.toOption]
        simp [hname, hpresent]
  · simp [hpresent]

end Marker

namespace Chooser

variable {c : Chooser} {request : Request} {w w' : World}

/-- Whether two worlds differ at most in files other than the key store, such as the marker. -/
structure SameButMarker (c : Chooser) (w w' : World) : Prop where
  dialogue : SameDialogue w w'
  present : FileSystem.present c.vault.path w' = FileSystem.present c.vault.path w
  read : FileSystem.read c.vault.path w' = FileSystem.read c.vault.path w

/-- Whether the markers of two worlds name the same stored key, or neither of them names one. -/
def SameHint (c : Chooser) (w w' : World) : Prop :=
  ∀ keys, c.vault.contents w = .ok keys → ∀ name ∈ keys.names,
    (c.marker.Names name w ↔ c.marker.Names name w')

/-- Whether the selectors are given the same hint in two worlds, and programs that are called as pickers end
in the same way. -/
structure SameToAsk (c : Chooser) (w w' : World) : Prop where
  hint : c.SameHint w w'
  programs : ∀ o, .picker o ∈ c.selectors → w.machine.SameProgram w'.machine o.program

theorem SameButMarker.contents
    (h : c.SameButMarker w w') :
    c.vault.contents w' = c.vault.contents w := by
  simp only [Vault.contents, h.present, h.read]

theorem IsHint.elsewhere
    {keys : Collection}
    {hint : Option KeyName}
    (hmarker : c.SameHint w w')
    (hload : c.vault.contents w = .ok keys)
    (hhint : c.IsHint keys w hint) :
    c.IsHint keys w' hint := by
  intro name
  rw [hhint name, Marker.get?_eq_some_iff, Marker.get?_eq_some_iff]
  exact and_congr_left fun hstored => hmarker keys hload name hstored

/-- Recording a name is no part of the dialogue, whether it can be written or not. -/
theorem sameDialogue_set
    (c : Chooser)
    (name : KeyName)
    (h : SameDialogue w w') :
    SameDialogue (c.marker.set name w).2 (c.marker.set name w').2 :=
  ((c.marker.sameDialogue_set name w).symm.trans h).trans (c.marker.sameDialogue_set name w')

/-- Selectors that are asked in one world make the same choice in the other. -/
theorem chooseWith_elsewhere
    {keys : Collection}
    {hint : Option KeyName}
    {choice : Except Failure KeyName}
    {w₁ : World}
    (h : c.SameButMarker w w')
    (hask : c.SameToAsk w w')
    (hchoose : Selector.chooseWith c.selectors keys hint w = (choice, w₁)) :
    ∃ w₁', Selector.chooseWith c.selectors keys hint w' = (choice, w₁') ∧
      SameDialogue w₁ w₁' := by
  have hsame : SameTo c.selectors w w' := ⟨h.dialogue, hask.programs⟩
  obtain ⟨hresult, hdialogue⟩ := Selector.chooseWith_alike keys hint hsame
  rw [hchoose] at hresult hdialogue
  exact ⟨(Selector.chooseWith c.selectors keys hint w').2, Prod.ext hresult rfl, hdialogue⟩

/-- A rule that applies in one world applies in the other, with the same result. -/
theorem Resolution.elsewhere
    {r : Except Failure Resolved}
    {w₁ : World}
    (h : c.SameButMarker w w')
    (hask : request.mode = .interactive → c.SameToAsk w w')
    (hrule : c.Resolution request w r w₁) :
    ∃ w₁', c.Resolution request w' r w₁' ∧ SameDialogue w₁ w₁' := by
  have hcontents := h.contents
  cases hrule with
  | unloadable hload =>
      exact ⟨w', .unloadable (hcontents.trans hload), h.dialogue⟩
  | badName hload hkey hname =>
      exact ⟨w', .badName (hcontents.trans hload) hkey hname, h.dialogue⟩
  | missing hload hkey hname habsent =>
      exact ⟨w', .missing (hcontents.trans hload) hkey hname habsent, h.dialogue⟩
  | explicit hload hkey hname hstored =>
      exact ⟨_, .explicit (hcontents.trans hload) hkey hname hstored, c.sameDialogue_set _ h.dialogue⟩
  | noDefault hload hkey huse hnone =>
      exact ⟨w', .noDefault (hcontents.trans hload) hkey huse hnone, h.dialogue⟩
  | default hload hkey huse hdefault hstored =>
      exact ⟨w', .default (hcontents.trans hload) hkey huse hdefault hstored, h.dialogue⟩
  | noKeys hload hkey huse hempty =>
      exact ⟨w', .noKeys (hcontents.trans hload) hkey huse hempty, h.dialogue⟩
  | refused hload hkey huse hnonempty hhint hchoose =>
      have hasked := hask (Request.mode_of_neither hkey huse)
      obtain ⟨w₁', hchoose', hdialogue⟩ := chooseWith_elsewhere h hasked hchoose
      have hhint' := hhint.elsewhere hasked.hint hload
      exact ⟨w₁', .refused (hcontents.trans hload) hkey huse hnonempty hhint' hchoose', hdialogue⟩
  | unknown hload hkey huse hnonempty hhint hchoose habsent =>
      have hasked := hask (Request.mode_of_neither hkey huse)
      obtain ⟨w₁', hchoose', hdialogue⟩ := chooseWith_elsewhere h hasked hchoose
      have hhint' := hhint.elsewhere hasked.hint hload
      exact ⟨w₁', .unknown (hcontents.trans hload) hkey huse hnonempty hhint' hchoose' habsent,
        hdialogue⟩
  | interactive hload hkey huse hnonempty hhint hchoose hstored =>
      have hasked := hask (Request.mode_of_neither hkey huse)
      obtain ⟨w₁', hchoose', hdialogue⟩ := chooseWith_elsewhere h hasked hchoose
      have hhint' := hhint.elsewhere hasked.hint hload
      exact ⟨_, .interactive (hcontents.trans hload) hkey huse hnonempty hhint' hchoose' hstored,
        c.sameDialogue_set _ hdialogue⟩

/-- The choice of a key ends in the same way whatever the marker holds and whether or not it can be read
and written, unless somebody is asked; and then it does so if both markers name the same stored key or
neither names one.  All that is shown, asked, consulted and called on the way is the same too. -/
theorem resolve_despite_marker
    (c : Chooser)
    (request : Request)
    {w w' : World}
    (h : c.SameButMarker w w')
    (hask : request.mode = .interactive → c.SameToAsk w w') :
    (c.resolve request w').1 = (c.resolve request w).1 ∧
      SameDialogue (c.resolve request w).2 (c.resolve request w').2 := by
  obtain ⟨r, w₁, hrule⟩ := c.resolution_total request w
  obtain ⟨w₁', hrule', hdialogue⟩ := hrule.elsewhere h hask
  rw [hrule.eq, hrule'.eq]
  exact ⟨rfl, hdialogue⟩

section Example

/-- A chooser whose files are on disk and that has a menu. -/
def onDisk : Chooser :=
  ⟨⟨"/d/keys.json"⟩, ⟨"/d/last_used"⟩, [.menu]⟩

/-- A key store with two keys, neither of which is the default. -/
def storeOfTwo : String :=
  "\x7b\"keys\":[\x7b\"name\":\"a\",\"key\":\"k1\",\"createdAt\":\"2024-01-01T00:00:00Z\"\x7d," ++
    "\x7b\"name\":\"b\",\"key\":\"k2\",\"createdAt\":\"2024-01-01T00:00:00Z\"\x7d]\x7d"

/-- The world with that key store and a given marker, in which the second key will be chosen. -/
def worldWithMarker (marker : Node) : World :=
  let disk : Disk :=
    ⟨[(["d"], .directory 0o755), (["d", "keys.json"], .file storeOfTwo.toUTF8 0o600),
      (["d", "last_used"], marker)]⟩
  .fresh none { Host.Machine.bare with disk := disk } [.ok "2"]

/-- A world whose marker names a key that is not stored. -/
def worldWithStaleMarker : World :=
  worldWithMarker (.file "gone\n".toUTF8 0o600)

/-- A world whose marker is a directory, which can be neither read nor written. -/
def worldWithLockedMarker : World :=
  worldWithMarker (.directory 0o755)

theorem sameButMarker_stale_locked :
    onDisk.SameButMarker worldWithStaleMarker worldWithLockedMarker where
  dialogue := ⟨rfl, rfl, rfl, rfl, rfl, rfl⟩
  present := by decide +kernel
  read := by decide +kernel

theorem sameHint_stale_locked :
    onDisk.SameHint worldWithStaleMarker worldWithLockedMarker := by
  have hstale : (onDisk.marker.get? worldWithStaleMarker).all fun name =>
      ((onDisk.vault.contents worldWithStaleMarker).toOption.all fun keys =>
        decide (name ∉ keys.names)) = true := by
    decide +kernel
  have hlocked : onDisk.marker.get? worldWithLockedMarker = none := by
    rw [← Option.not_isSome_iff_eq_none]
    decide +kernel
  intro keys hload name hstored
  rw [← Marker.get?_eq_some_iff, ← Marker.get?_eq_some_iff, hlocked]
  refine iff_of_false ?_ (by simp)
  intro hname
  rw [hload, hname] at hstale
  simp [Except.toOption] at hstale
  exact hstale hstored

theorem resolve_despite_marker_locked :
    ∃ resolved,
      (onDisk.resolve ⟨none, false⟩ worldWithStaleMarker).1 = .ok resolved ∧
      (onDisk.resolve ⟨none, false⟩ worldWithLockedMarker).1 = .ok resolved ∧
      resolved.key.name.value = "b" ∧
      SameDialogue (onDisk.resolve ⟨none, false⟩ worldWithStaleMarker).2
        (onDisk.resolve ⟨none, false⟩ worldWithLockedMarker).2 := by
  have hsucceeds : (onDisk.resolve ⟨none, false⟩ worldWithStaleMarker).1.toOption.any
      (fun resolved => resolved.key.name.value == "b") = true := by
    decide +kernel
  obtain ⟨resolved, hresolved, hname⟩ := Action.exists_of_any_toOption hsucceeds
  obtain ⟨hresult, hdialogue⟩ :=
    resolve_despite_marker onDisk ⟨none, false⟩ sameButMarker_stale_locked fun _ =>
      ⟨sameHint_stale_locked, fun o ho => by simp [onDisk] at ho⟩
  rw [hresolved] at hresult
  exact ⟨resolved, hresolved, hresult, beq_iff_eq.1 hname, hdialogue⟩

end Example

end Chooser
end Keyring
