import Mathlib.Data.List.Nodup
import Keyring.Proofs.Action
import Keyring.Proofs.Key.Reading
import Keyring.Proofs.Selector.Files
import Keyring.Proofs.Store.Change
import Keyring.Proofs.Store.Files
import Keyring.Proofs.World
import Keyring.Resolve

/-!
# How a key is chosen

The rules by which a request for a key is decided are stated as an inductive relation, one rule for each
way in which the choice can end.  The rules speak of what is stored and not of how it is looked up.

Main facts:
* `Chooser.resolution_total`: for every request and every world some rule applies;
* `Chooser.Resolution.eq`: what a rule says is what `Chooser.resolve` does, so only one applies;
* `Chooser.resolve_iff_resolution`: the rules describe `Chooser.resolve` completely.  A name that is
  given and the default are settled without a word to anybody, and after a choice the file of the last-used
  marker holds the chosen name, unless the default was asked for or the file could not be written.
-/

namespace Keyring

/-- The way in which a request is to be decided: a name that is given wins over everything else. -/
def Request.mode (request : Request) : KeySource :=
  if request.key.isSome then .explicit
  else if request.useDefault then .default
  else .interactive

namespace Request

variable {request : Request}

theorem mode_of_key
    {raw : String}
    (hkey : request.key = some raw) :
    request.mode = .explicit := by
  simp [mode, hkey]

theorem mode_of_useDefault
    (hkey : request.key = none)
    (huse : request.useDefault = true) :
    request.mode = .default := by
  simp [mode, hkey, huse]

theorem mode_of_neither
    (hkey : request.key = none)
    (huse : request.useDefault = false) :
    request.mode = .interactive := by
  simp [mode, hkey, huse]

end Request

namespace Collection

variable {c : Collection} {name : KeyName} {key : Profile}

/-- A name is that of a stored key, or not. -/
theorem exists_or_not_mem_names (c : Collection) (name : KeyName) :
    (∃ key ∈ c.keys, key.name = name) ∨ name ∉ c.names := by
  by_cases hmem : name ∈ c.names
  · exact .inl (List.mem_map.1 hmem)
  · exact .inr hmem

/-- Names are different, so a key that is found is the one that is stored under its name. -/
theorem find?_eq_some_iff :
    c.find? name = some key ↔ key ∈ c.keys ∧ key.name = name := by
  constructor
  · intro h
    have hname := List.find?_some h
    exact ⟨List.mem_of_find?_eq_some h, by simpa using hname⟩
  · rintro ⟨hmem, rfl⟩
    have hfound : (c.find? key.name).isSome = true := contains_iff.2 (List.mem_map_of_mem hmem)
    obtain ⟨other, hother⟩ := Option.isSome_iff_exists.1 hfound
    have hname : other.name = key.name := by simpa using List.find?_some hother
    have hsame : other = key :=
      List.inj_on_of_nodup_map c.names_nodup (List.mem_of_find?_eq_some hother) hmem hname
    rw [hother, hsame]

theorem find?_eq_none_iff :
    c.find? name = none ↔ name ∉ c.names := by
  rw [← contains_iff, contains, Bool.not_eq_true, Option.isSome_eq_false_iff, Option.isNone_iff_eq_none]

theorem default?_eq_some_iff :
    c.default? = some key ↔ key ∈ c.keys ∧ c.defaultName = some key.name := by
  rw [default?, Option.bind_eq_some_iff]
  constructor
  · rintro ⟨name, hdefault, hfound⟩
    obtain ⟨hmem, rfl⟩ := find?_eq_some_iff.1 hfound
    exact ⟨hmem, hdefault⟩
  · rintro ⟨hmem, hdefault⟩
    exact ⟨key.name, hdefault, find?_eq_some_iff.2 ⟨hmem, rfl⟩⟩

theorem default?_eq_none_iff :
    c.default? = none ↔ c.defaultName = none := by
  rw [default?, Option.bind_eq_none_iff]
  constructor
  · intro h
    cases hdefault : c.defaultName with
    | none => rfl
    | some n => exact absurd (c.default_mem n hdefault) (find?_eq_none_iff.1 (h n hdefault))
  · intro h n hn
    rw [h] at hn
    cases hn

end Collection

/-- Whether a name has been written into a marker: its file holds the name, and the marker names it unless it
cannot be read. -/
structure Marker.Written (m : Marker) (name : KeyName) (w w' : World) : Prop where
  write : FileSystem.write m.path name.value w = (.ok (), w')
  text : w'.fileSight m.path = some (some name.value.toUTF8)
  named : m.get? w' = some name ∨ ∃ fault, FileSystem.read m.path w' = .error fault

/-- Whether a name could not be written into a marker: files in memory are as they were, and on disk nothing
has happened but to the temporary file and to directories that were missing. -/
structure Marker.Unwritten (m : Marker) (name : KeyName) (w w' : World) : Prop where
  write : ∃ fault, FileSystem.write m.path name.value w = (.error fault, w')
  inMemory : w.memory ≠ none → w' = w
  onDisk : w.memory = none →
    ∃ d, w' = w.withDisk d ∧
      Disk.Edited [Disk.placeOf (Path.temporary m.path)] (Disk.madeFor m.path) w.machine.disk d

/-- Whether a world is left by recording a name in the marker as far as that is possible. -/
structure Marker.Recorded (m : Marker) (name : KeyName) (w w' : World) : Prop where
  dialogue : World.SameDialogue w w'
  outcome : m.Written name w w' ∨ m.Unwritten name w w'

theorem Marker.sameDialogue_set
    (m : Marker)
    (name : KeyName)
    (w : World) :
    World.SameDialogue w (m.set name w).2 :=
  w.sameDialogue_onFiles (FileSystem.write m.path name.value) (FileSystem.write m.path name.value)

/-- A name that is written is the one that is found, as the text of a name reads as that name. -/
theorem Marker.written_of_write
    {m : Marker}
    {name : KeyName}
    {w w' : World}
    (h : FileSystem.write m.path name.value w = (.ok (), w')) :
    m.Written name w w' := by
  have hseen := (World.file?_of_write h).2
  exact ⟨h, hseen, (get?_of_fileSight hseen).imp_right And.right⟩

/-- A write that fails leaves at most a temporary file and directories. -/
theorem Marker.unwritten_of_write
    {m : Marker}
    {name : KeyName}
    {fault : FileFault}
    {w w' : World}
    (h : FileSystem.write m.path name.value w = (.error fault, w')) :
    m.Unwritten name w w' where
  write := ⟨fault, h⟩
  inMemory hmemory := World.eq_of_write_eq_error hmemory h
  onDisk hdisk := by
    have hwrite : FileSystem.write m.path name.value w = _ := World.onFiles_of_disk hdisk _ _
    rw [hwrite] at h
    obtain ⟨herror, rfl⟩ := Prod.mk.inj h
    exact ⟨_, rfl, Disk.edited_replace_of_error (Prod.ext herror rfl)⟩

theorem Marker.recorded_write
    (m : Marker)
    (name : KeyName)
    (w : World) :
    m.Recorded name w (FileSystem.write m.path name.value w).2 := by
  refine ⟨m.sameDialogue_set name w, ?_⟩
  cases hwrite : FileSystem.write m.path name.value w with
  | mk outcome w' =>
      cases outcome with
      | ok u => exact .inl (written_of_write hwrite)
      | error fault => exact .inr (unwritten_of_write hwrite)

namespace Chooser

/-- Whether a hint is the name in the marker exactly when that name is one of a stored key. -/
def IsHint (c : Chooser) (keys : Collection) (w : World) (hint : Option KeyName) : Prop :=
  ∀ name, hint = some name ↔ c.marker.get? w = some name ∧ name ∈ keys.names

theorem isHint_hint? (c : Chooser) (keys : Collection) (w : World) :
    c.IsHint keys w (c.hint? keys w) := by
  intro name
  rw [hint?, Option.filter_eq_some_iff, Collection.contains_iff]

theorem IsHint.eq_hint?
    {c : Chooser}
    {keys : Collection}
    {w : World}
    {hint : Option KeyName}
    (h : c.IsHint keys w hint) :
    hint = c.hint? keys w := by
  apply Option.ext
  intro name
  exact (h name).trans (c.isHint_hint? keys w name).symm

/-- What deciding a request in one way leaves behind.  A failure leaves everything alone unless somebody was
asked, who may have started programs.  A success tells the way, and has recorded the name of the key in the
marker unless it is the default that was asked for. -/
def Leaves (c : Chooser) (w : World) (mode : KeySource) : Except Failure Resolved → World → Prop
  | .error _, w' => World.Idle w w' ∧ (mode ≠ .interactive → w' = w)
  | .ok resolved, w' =>
      resolved.source = mode ∧
        match mode with
        | .explicit => c.marker.Recorded resolved.key.name w w'
        | .default => w' = w
        | .interactive =>
            ∃ keys hint w₁, c.vault.contents w = .ok keys ∧ c.IsHint keys w hint ∧
              Selector.chooseWith c.selectors keys hint w = (.ok resolved.key.name, w₁) ∧
                World.Idle w w₁ ∧ c.marker.Recorded resolved.key.name w₁ w'

/-- The rules by which a request is decided: the result and the world that is left. -/
inductive Resolution (c : Chooser) (request : Request) (w : World) :
    Except Failure Resolved → World → Prop
  | unloadable
      {f : Failure}
      (hload : c.vault.contents w = .error f) :
      Resolution c request w (.error f) w
  | badName
      {keys : Collection} {raw : String} {fault : NameFault}
      (hload : c.vault.contents w = .ok keys)
      (hkey : request.key = some raw)
      (hname : KeyName.ofText raw = .error fault) :
      Resolution c request w (.error (.validation fault.message)) w
  | missing
      {keys : Collection} {raw : String} {name : KeyName}
      (hload : c.vault.contents w = .ok keys)
      (hkey : request.key = some raw)
      (hname : KeyName.ofText raw = .ok name)
      (habsent : name ∉ keys.names) :
      Resolution c request w (.error (.keyNotFound name.value)) w
  | explicit
      {keys : Collection} {raw : String} {key : Profile}
      (hload : c.vault.contents w = .ok keys)
      (hkey : request.key = some raw)
      (hname : KeyName.ofText raw = .ok key.name)
      (hstored : key ∈ keys.keys) :
      Resolution c request w (.ok ⟨key, .explicit⟩)
        (FileSystem.write c.marker.path key.name.value w).2
  | noDefault
      {keys : Collection}
      (hload : c.vault.contents w = .ok keys)
      (hkey : request.key = none)
      (huse : request.useDefault = true)
      (hnone : keys.defaultName = none) :
      Resolution c request w (.error .noDefault) w
  | default
      {keys : Collection} {key : Profile}
      (hload : c.vault.contents w = .ok keys)
      (hkey : request.key = none)
      (huse : request.useDefault = true)
      (hdefault : keys.defaultName = some key.name)
      (hstored : key ∈ keys.keys) :
      Resolution c request w (.ok ⟨key, .default⟩) w
  | noKeys
      {keys : Collection}
      (hload : c.vault.contents w = .ok keys)
      (hkey : request.key = none)
      (huse : request.useDefault = false)
      (hempty : keys.keys = []) :
      Resolution c request w (.error .noKeys) w
  | refused
      {keys : Collection} {hint : Option KeyName} {f : Failure} {w₁ : World}
      (hload : c.vault.contents w = .ok keys)
      (hkey : request.key = none)
      (huse : request.useDefault = false)
      (hnonempty : keys.keys ≠ [])
      (hhint : c.IsHint keys w hint)
      (hchoose : Selector.chooseWith c.selectors keys hint w = (.error f, w₁)) :
      Resolution c request w (.error f) w₁
  | unknown
      {keys : Collection} {hint : Option KeyName} {name : KeyName} {w₁ : World}
      (hload : c.vault.contents w = .ok keys)
      (hkey : request.key = none)
      (huse : request.useDefault = false)
      (hnonempty : keys.keys ≠ [])
      (hhint : c.IsHint keys w hint)
      (hchoose : Selector.chooseWith c.selectors keys hint w = (.ok name, w₁))
      (habsent : name ∉ keys.names) :
      Resolution c request w (.error (.keyNotFound name.value)) w₁
  | interactive
      {keys : Collection} {hint : Option KeyName} {key : Profile} {w₁ : World}
      (hload : c.vault.contents w = .ok keys)
      (hkey : request.key = none)
      (huse : request.useDefault = false)
      (hnonempty : keys.keys ≠ [])
      (hhint : c.IsHint keys w hint)
      (hchoose : Selector.chooseWith c.selectors keys hint w = (.ok key.name, w₁))
      (hstored : key ∈ keys.keys) :
      Resolution c request w (.ok ⟨key, .interactive⟩)
        (FileSystem.write c.marker.path key.name.value w₁).2

section Rules

variable {c : Chooser} {request : Request} {w : World}

/-- Some rule applies. -/
theorem resolution_total (c : Chooser) (request : Request) (w : World) :
    ∃ r w', c.Resolution request w r w' := by
  cases hload : c.vault.contents w with
  | error f => exact ⟨_, _, .unloadable hload⟩
  | ok keys =>
      cases hkey : request.key with
      | some raw =>
          cases hname : KeyName.ofText raw with
          | error fault => exact ⟨_, _, .badName hload hkey hname⟩
          | ok name =>
              rcases keys.exists_or_not_mem_names name with ⟨key, hstored, rfl⟩ | habsent
              · exact ⟨_, _, .explicit hload hkey hname hstored⟩
              · exact ⟨_, _, .missing hload hkey hname habsent⟩
      | none =>
          cases huse : request.useDefault with
          | true =>
              cases hdefault : keys.defaultName with
              | none => exact ⟨_, _, .noDefault hload hkey huse hdefault⟩
              | some name =>
                  obtain ⟨key, hstored, rfl⟩ := List.mem_map.1 (keys.default_mem name hdefault)
                  exact ⟨_, _, .default hload hkey huse hdefault hstored⟩
          | false =>
              by_cases hempty : keys.keys = []
              · exact ⟨_, _, .noKeys hload hkey huse hempty⟩
              have hhint := c.isHint_hint? keys w
              cases hchoose : Selector.chooseWith c.selectors keys (c.hint? keys w) w with
              | mk choice w₁ =>
                  cases choice with
                  | error f => exact ⟨_, _, .refused hload hkey huse hempty hhint hchoose⟩
                  | ok name =>
                      rcases keys.exists_or_not_mem_names name with ⟨key, hstored, rfl⟩ | habsent
                      · exact ⟨_, _, .interactive hload hkey huse hempty hhint hchoose hstored⟩
                      · exact ⟨_, _, .unknown hload hkey huse hempty hhint hchoose habsent⟩

/-- What a rule says is what the program does. -/
theorem Resolution.eq
    {r : Except Failure Resolved}
    {w' : World}
    (h : c.Resolution request w r w') :
    c.resolve request w = (r.mapError .failed, w') := by
  cases h with
  | unloadable hload =>
      simp [resolve, Vault.load_of_contents_eq_error hload, Except.mapError]
  | badName hload hkey hname =>
      simp [resolve, Chooser.name, KeyName.read, NameFault.failure, Vault.load_of_contents hload,
        hkey, hname, Except.mapError]
  | missing hload hkey hname habsent =>
      simp [resolve, Chooser.name, KeyName.read, Vault.load_of_contents hload, hkey, hname,
        Collection.find?_eq_none_iff.2 habsent, Except.mapError, Action.fail]
  | explicit hload hkey hname hstored =>
      simp [resolve, Chooser.name, KeyName.read, Vault.load_of_contents hload, hkey, hname,
        Collection.find?_eq_some_iff.2 ⟨hstored, rfl⟩, remember, Marker.set, Except.mapError]
  | noDefault hload hkey huse hnone =>
      simp [resolve, Chooser.name, Vault.load_of_contents hload, hkey, huse,
        Collection.default?_eq_none_iff.2 hnone, Except.mapError, Action.fail]
  | default hload hkey huse hdefault hstored =>
      simp [resolve, Chooser.name, Vault.load_of_contents hload, hkey, huse,
        Collection.default?_eq_some_iff.2 ⟨hstored, hdefault⟩,
        Collection.find?_eq_some_iff.2 ⟨hstored, rfl⟩, remember, Except.mapError]
  | noKeys hload hkey huse hempty =>
      simp [resolve, Chooser.name, ask, Vault.load_of_contents hload, hkey, huse,
        Collection.isEmpty, hempty, Except.mapError]
  | refused hload hkey huse hnonempty hhint hchoose =>
      rw [hhint.eq_hint?] at hchoose
      simp [resolve, Chooser.name, ask, Vault.load_of_contents hload, hkey, huse,
        Collection.isEmpty, hnonempty, hchoose, Except.mapError]
  | unknown hload hkey huse hnonempty hhint hchoose habsent =>
      rw [hhint.eq_hint?] at hchoose
      simp [resolve, Chooser.name, ask, Vault.load_of_contents hload, hkey, huse,
        Collection.isEmpty, hnonempty, hchoose, Collection.find?_eq_none_iff.2 habsent,
        Except.mapError, Action.fail]
  | interactive hload hkey huse hnonempty hhint hchoose hstored =>
      rw [hhint.eq_hint?] at hchoose
      simp [resolve, Chooser.name, ask, Vault.load_of_contents hload, hkey, huse,
        Collection.isEmpty, hnonempty, hchoose, Collection.find?_eq_some_iff.2 ⟨hstored, rfl⟩,
        remember, Marker.set, Except.mapError]

/-- When no key is chosen, there is a failure, and nothing has been written or launched. -/
theorem idle_of_resolve_eq_error
    {abort : Abort}
    {w' : World}
    (h : c.resolve request w = (.error abort, w')) :
    (∃ f, abort = .failed f) ∧ World.Idle w w' := by
  obtain ⟨r, w₁, hrule⟩ := c.resolution_total request w
  rw [hrule.eq] at h
  cases hrule with
  | unloadable hload =>
      cases h
      exact ⟨⟨_, rfl⟩, .refl w⟩
  | badName hload hkey hname =>
      cases h
      exact ⟨⟨_, rfl⟩, .refl w⟩
  | missing hload hkey hname habsent =>
      cases h
      exact ⟨⟨_, rfl⟩, .refl w⟩
  | explicit hload hkey hname hstored => cases h
  | noDefault hload hkey huse hnone =>
      cases h
      exact ⟨⟨_, rfl⟩, .refl w⟩
  | default hload hkey huse hdefault hstored => cases h
  | noKeys hload hkey huse hempty =>
      cases h
      exact ⟨⟨_, rfl⟩, .refl w⟩
  | refused hload hkey huse hnonempty hhint hchoose =>
      cases h
      exact ⟨⟨_, rfl⟩, Selector.idle_of_chooseWith hchoose⟩
  | unknown hload hkey huse hnonempty hhint hchoose habsent =>
      cases h
      exact ⟨⟨_, rfl⟩, Selector.idle_of_chooseWith hchoose⟩
  | interactive hload hkey huse hnonempty hhint hchoose hstored => cases h

/-- A key that is chosen is one of those that have been loaded, and nothing has been written or launched
until its name is put into the marker, which is not done for the default. -/
theorem exists_of_resolve_eq_ok
    {resolved : Resolved}
    {w' : World}
    (h : c.resolve request w = (.ok resolved, w')) :
    ∃ keys w₁, c.vault.contents w = .ok keys ∧ resolved.key ∈ keys.keys ∧ World.Idle w w₁ ∧
      (resolved.source = .default ∧ w' = w₁ ∨
        (resolved.source = .explicit ∨ resolved.source = .interactive) ∧
          w' = (FileSystem.write c.marker.path resolved.key.name.value w₁).2) := by
  obtain ⟨r, w₁, hrule⟩ := c.resolution_total request w
  rw [hrule.eq] at h
  cases hrule with
  | explicit hload hkey hname hstored =>
      cases h
      exact ⟨_, w, hload, hstored, .refl w, .inr ⟨.inl rfl, rfl⟩⟩
  | default hload hkey huse hdefault hstored =>
      cases h
      exact ⟨_, _, hload, hstored, .refl _, .inl ⟨rfl, rfl⟩⟩
  | interactive hload hkey huse hnonempty hhint hchoose hstored =>
      cases h
      exact ⟨_, _, hload, hstored, Selector.idle_of_chooseWith hchoose, .inr ⟨.inr rfl, rfl⟩⟩
  | unloadable hload => cases h
  | badName hload hkey hname => cases h
  | missing hload hkey hname habsent => cases h
  | noDefault hload hkey huse hnone => cases h
  | noKeys hload hkey huse hempty => cases h
  | refused hload hkey huse hnonempty hhint hchoose => cases h
  | unknown hload hkey huse hnonempty hhint hchoose habsent => cases h

/-- Nothing is launched while a key is chosen. -/
theorem launches_of_resolve
    {result : Except Abort Resolved}
    {w' : World}
    (h : c.resolve request w = (result, w')) :
    w'.launches = w.launches := by
  cases result with
  | error abort => exact (idle_of_resolve_eq_error h).2.launches
  | ok resolved =>
      obtain ⟨keys, w₁, -, -, hidle, ⟨-, rfl⟩ | ⟨-, rfl⟩⟩ := exists_of_resolve_eq_ok h
      · exact hidle.launches
      · exact (c.marker.sameDialogue_set resolved.key.name w₁).launches.trans hidle.launches

/-- What a rule leaves behind goes by the way in which the request is to be decided. -/
theorem Resolution.leaves
    {r : Except Failure Resolved}
    {w' : World}
    (h : c.Resolution request w r w') :
    c.Leaves w request.mode r w' := by
  cases h with
  | unloadable hload => exact ⟨.refl w, fun _ => rfl⟩
  | badName hload hkey hname => exact ⟨.refl w, fun _ => rfl⟩
  | missing hload hkey hname habsent => exact ⟨.refl w, fun _ => rfl⟩
  | explicit hload hkey hname hstored =>
      rw [Request.mode_of_key hkey]
      exact ⟨rfl, c.marker.recorded_write _ w⟩
  | noDefault hload hkey huse hnone => exact ⟨.refl w, fun _ => rfl⟩
  | default hload hkey huse hdefault hstored =>
      rw [Request.mode_of_useDefault hkey huse]
      exact ⟨rfl, rfl⟩
  | noKeys hload hkey huse hempty => exact ⟨.refl w, fun _ => rfl⟩
  | refused hload hkey huse hnonempty hhint hchoose =>
      exact ⟨Selector.idle_of_chooseWith hchoose,
        fun hne => absurd (Request.mode_of_neither hkey huse) hne⟩
  | unknown hload hkey huse hnonempty hhint hchoose habsent =>
      exact ⟨Selector.idle_of_chooseWith hchoose,
        fun hne => absurd (Request.mode_of_neither hkey huse) hne⟩
  | @interactive keys hint key w₁ hload hkey huse hnonempty hhint hchoose hstored =>
      rw [Request.mode_of_neither hkey huse]
      exact ⟨rfl, _, _, _, hload, hhint, hchoose, Selector.idle_of_chooseWith hchoose,
        c.marker.recorded_write _ w₁⟩

/-- Nobody is asked unless the request is to be decided interactively. -/
theorem Leaves.sameDialogue
    {mode : KeySource}
    {r : Except Failure Resolved}
    {w' : World}
    (h : c.Leaves w mode r w')
    (hmode : mode ≠ .interactive) :
    World.SameDialogue w w' := by
  cases r with
  | error f =>
      rw [h.2 hmode]
      exact .refl w
  | ok resolved =>
      cases mode with
      | explicit => exact h.2.dialogue
      | default =>
          rw [h.2]
          exact .refl w
      | interactive => exact absurd rfl hmode

end Rules

/-- The rules describe the choice of a key completely, whatever the files hold and whatever the
selectors do.  What is left behind goes by the way in which the request is decided; a name that is given
and the default are settled without a word to anybody. -/
theorem resolve_iff_resolution
    (c : Chooser)
    (request : Request)
    (result : Except Abort Resolved)
    (w w' : World) :
    (c.resolve request w = (result, w') ↔
      ∃ r, result = r.mapError .failed ∧ c.Resolution request w r w') ∧
    ∀ r, c.Resolution request w r w' →
      c.Leaves w request.mode r w' ∧
        (request.mode ≠ .interactive → World.SameDialogue w w') := by
  refine ⟨⟨?_, ?_⟩, ?_⟩
  · intro h
    obtain ⟨r, w₁, hrule⟩ := c.resolution_total request w
    rw [hrule.eq] at h
    cases h
    exact ⟨r, rfl, hrule⟩
  · rintro ⟨r, rfl, hrule⟩
    exact hrule.eq
  · intro r hrule
    exact ⟨hrule.leaves, hrule.leaves.sameDialogue⟩

/-- A chooser that has nobody to ask. -/
def alone : Chooser :=
  ⟨⟨"keys.json"⟩, ⟨"last_used"⟩, []⟩

/-- The world whose key store is the one of `Vault.storeOfOne`. -/
def worldOfOne : World :=
  .fresh (some (Vault.storeOfOne "2024-01-01T00:00:00Z" " ")) .bare []

/-- A request that gives a name and asks for the default as well. -/
def insisting : Request :=
  ⟨some " a\n", true⟩

theorem resolve_iff_resolution_insisting :
    ∃ resolved w', alone.resolve insisting worldOfOne = (.ok resolved, w') ∧
      resolved.source = .explicit ∧ resolved.key.name.value = "a" ∧
      w'.fileSight alone.marker.path = some (some "a".toUTF8) ∧
      alone.marker.get? w' = some resolved.key.name := by
  have hsucceeds : (alone.resolve insisting worldOfOne).1.toOption.any
      (fun resolved => resolved.key.name.value == "a") = true := by
    decide +kernel
  obtain ⟨resolved, w', hresolve, hname⟩ := Action.exists_of_any_fst hsucceeds
  obtain ⟨hrules, hleaves⟩ := resolve_iff_resolution alone insisting (.ok resolved) worldOfOne w'
  obtain ⟨r, hresult, hrule⟩ := hrules.1 hresolve
  obtain ⟨⟨hsource, hmarker⟩, -⟩ : alone.Leaves worldOfOne .explicit (.ok resolved) w' ∧ _ := by
    cases r with
    | error f => cases hresult
    | ok resolved' =>
        cases hresult
        exact hleaves _ hrule
  -- No call fails here, so the name has been written and can be read.
  rcases hmarker.outcome with hwritten | hfailed
  · have htext := hwritten.text
    rw [beq_iff_eq.1 hname] at htext
    refine ⟨resolved, w', hresolve, hsource, beq_iff_eq.1 hname, htext, ?_⟩
    rcases hwritten.named with hnamed | ⟨fault, hfault⟩
    · exact hnamed
    · have hwrite := hwritten.write
      cases hwrite
      cases hfault
  · obtain ⟨fault, hfault⟩ := hfailed.write
    cases hfault

end Chooser
end Keyring
