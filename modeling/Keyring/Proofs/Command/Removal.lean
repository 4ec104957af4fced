import Keyring.Proofs.Command.Effect
import Keyring.Proofs.Command.Reports
import Keyring.Proofs.Hint
import Keyring.Proofs.Store.OnDisk

/-!
# What a removal deletes, and when

A key is removed if that was confirmed beforehand or the one reply to the question says yes.  Without
agreement nothing happens to the files.  With it all other keys stay as they are, the default goes with
its key, and so does a marker that names it.

This is said of files in memory and on disk, where no call on the key store and the marker fails and the
two do not get in each other's way: `Context.Calm`.
-/

namespace Keyring

open LawfulFileSystem (Readable)
open World (Rests SameFiles)

/-- A question is answered by the reply that comes next. -/
theorem World.ask_eq_ok_iff
    {question answer : String}
    {w : World} :
    (w.ask question).1 = .ok answer ↔ w.terminal.replies.head? = some (.ok answer) := by
  have hreply : (w.ask question).1 = (w.terminal.ask question).1 := rfl
  simp only [hreply, Terminal.ask, Terminal.write]
  cases w.terminal.replies with
  | nil => simp
  | cons reply rest => simp

namespace Removal

/-- Whether a removal is agreed to: it was confirmed beforehand, or the reply that comes next says yes. -/
def Agreed (confirmed : Bool) (w : World) : Prop :=
  confirmed = true ∨
    ∃ answer, w.terminal.replies.head? = some (.ok answer) ∧
      ((Text.trimmed answer).toLower = "y" ∨ (Text.trimmed answer).toLower = "yes")

/-- The world once it is known whether a removal is agreed to. -/
def decided (confirmed : Bool) (name : KeyName) (wasDefault : Bool) (w : World) : World :=
  if confirmed then w else (w.ask (question name wasDefault)).2

/-- An answer agrees if it is a yes, short or long, in any case and with any space around it. -/
theorem agrees_iff {answer : String} :
    agrees answer = true ↔ (Text.trimmed answer).toLower = "y" ∨ (Text.trimmed answer).toLower = "yes" := by
  simp [agrees]

/-- The question is asked once; a reply that is no answer disagrees. -/
theorem confirm_eq
    (name : KeyName)
    (wasDefault : Bool)
    (w : World) :
    ∃ agreed, confirm name wasDefault w = (.ok agreed, decided false name wasDefault w) ∧
      (agreed = true ↔ Agreed false w) := by
  have hanswer := fun answer => @World.ask_eq_ok_iff (question name wasDefault) answer w
  unfold confirm Agreed decided
  cases hask : w.ask (question name wasDefault) with
  | mk reply w' =>
      simp only [hask] at hanswer
      cases reply with
      | error fault => exact ⟨false, rfl, by simp [← hanswer]⟩
      | ok answer => exact ⟨agrees answer, rfl, by simp [← hanswer, agrees_iff]⟩

/-- Until a removal has been decided on, the files stay as they are. -/
theorem sameFiles_decided
    (confirmed : Bool)
    (name : KeyName)
    (wasDefault : Bool)
    (w : World) :
    SameFiles w (decided confirmed name wasDefault w) := by
  unfold decided
  split
  · exact ⟨rfl, rfl⟩
  · exact ⟨rfl, rfl⟩

theorem rests_decided
    (confirmed : Bool)
    (name : KeyName)
    (wasDefault : Bool)
    (w : World) :
    Rests w (decided confirmed name wasDefault w) := by
  unfold decided
  split
  · exact .refl w
  · exact .of_memory_eq rfl rfl rfl

end Removal

/-- A marker names the same where the files are the same. -/
theorem World.SameFiles.names
    {w w' : World}
    (h : SameFiles w w')
    (m : Marker)
    (name : KeyName) :
    m.Names name w' ↔ m.Names name w := by
  simp only [Marker.Names, FileSystem.present, FileSystem.read, h.1, h.2]

/-- A marker that can be read names the same as time goes by. -/
theorem World.names_elapse
    {w : World}
    (hreadable : Readable w)
    (m : Marker)
    (name : KeyName) :
    m.Names name (FileSystem.elapse w) ↔ m.Names name w := by
  have hread : FileSystem.read m.path (FileSystem.elapse w) = FileSystem.read m.path w :=
    LawfulFileSystem.read_elapse (LawfulFileSystem.readableAt hreadable m.path)
      (LawfulFileSystem.readableAt (LawfulFileSystem.readable_elapse hreadable) m.path)
  simp only [Marker.Names, LawfulFileSystem.present_elapse m.path w, hread]

namespace Context

/-- Whether the key store and the marker are two files, in memory or on disk, of which neither is the
temporary file of the other, and no call on them fails. -/
inductive Calm (c : Context) (w : World) : Prop
  | inMemory
      {m : Memory}
      (hmemory : w.memory = some m)
      (hcalls : ∀ moment call path, m.failing moment call path = false)
      (hapart : Path.key c.marker.path ≠ Path.key c.vault.path) :
      Calm c w
  | onDisk
      (hdisk : w.memory = none)
      (hstores : ∀ text, (c.vault.writePrivate text w.machine.disk).1 = .ok ())
      (hapart : Disk.placeOf c.marker.path ≠ Disk.placeOf c.vault.path)
      (hbeside : Disk.placeOf c.marker.path ≠ Disk.placeOf (Path.temporary c.vault.path)) :
      Calm c w

section Files

variable {c : Context} {w w₁ w' : World} {before keys : Collection} {name : KeyName}

theorem Calm.of_rests
    (h : c.Calm w)
    (hrests : Rests w w') :
    c.Calm w' := by
  cases h with
  | inMemory hmemory hcalls hapart =>
      obtain ⟨moment, hmemory'⟩ := hrests.memory_of_some hmemory
      exact .inMemory hmemory' hcalls hapart
  | onDisk hdisk hstores hapart hbeside =>
      refine .onDisk (hrests.memory_of_none hdisk) ?_ hapart hbeside
      rwa [hrests.machine]

theorem Calm.reliable
    (h : c.Calm w) :
    c.vault.Reliable w := by
  cases h with
  | inMemory hmemory hcalls hapart =>
      refine ⟨fun m hm => ?_, fun hdisk => ?_⟩
      · cases hmemory.symm.trans hm
        exact hcalls
      · cases hmemory.symm.trans hdisk
  | onDisk hdisk hstores hapart hbeside =>
      refine ⟨fun m hm => ?_, fun _ => hstores⟩
      cases hdisk.symm.trans hm

theorem Calm.readable
    (h : c.Calm w) :
    Readable w :=
  h.reliable.trusted.readable

/-- Whether the terminal and the marker are as they were. -/
structure Spared (c : Context) (w w₁ : World) : Prop where
  terminal : w₁.terminal = w.terminal
  hint : c.marker.get? w₁ = c.marker.get? w
  marker : w₁.fileSight c.marker.path = w.fileSight c.marker.path

/-- Saving a key store that holds a key touches neither the terminal nor the marker. -/
theorem Calm.spared
    (h : c.Calm w)
    (hload : c.vault.contents w = .ok before)
    (hkeys : before.keys ≠ [])
    (hsave : c.vault.save keys w = (.ok (), w₁)) :
    c.Spared w w₁ := by
  cases h with
  | @inMemory m hmemory hcalls hapart =>
      rw [c.vault.save_of_memory keys hmemory] at hsave
      obtain ⟨-, rfl⟩ := Prod.mk.inj hsave
      have hsame := m.sameAt_save (v := c.vault) keys hapart
      have hfails : (c.vault.save keys m).2.fails .read c.marker.path = m.fails .read c.marker.path := by
        rw [Memory.fails, Memory.fails, hsame.failing, hcalls, hcalls]
      refine ⟨rfl, ?_, ?_⟩
      · rw [c.marker.get?_of_memory rfl, c.marker.get?_of_memory hmemory,
          Marker.get?_congr hsame.text hfails]
      · rw [World.fileSight_of_memory _ rfl, World.fileSight_of_memory _ hmemory, hsame.text]
  | onDisk hdisk hstores hapart hbeside =>
      rw [c.vault.contents_of_disk hdisk] at hload
      obtain ⟨seen, hseen⟩ := Disk.exists_sight_of_contents hload hkeys
      have hsight := Marker.sight_of_save hseen hapart hbeside keys
      rw [c.vault.save_of_disk keys hdisk] at hsave
      obtain ⟨-, rfl⟩ := Prod.mk.inj hsave
      generalize (c.vault.save keys w.machine.disk).2 = d₁ at hsight ⊢
      have hdisk₁ : (w.withDisk d₁).memory = none := hdisk
      refine ⟨rfl, ?_, ?_⟩
      · calc c.marker.get? (w.withDisk d₁)
            = c.marker.get? d₁ := c.marker.get?_of_disk hdisk₁
          _ = c.marker.get? w.machine.disk := Marker.get?_of_sight hsight
          _ = c.marker.get? w := (c.marker.get?_of_disk hdisk).symm
      · calc (w.withDisk d₁).fileSight c.marker.path
            = d₁.sight c.marker.path := World.fileSight_of_disk _ hdisk₁
          _ = w.machine.disk.sight c.marker.path := hsight
          _ = w.fileSight c.marker.path := (World.fileSight_of_disk _ hdisk).symm

/-- Whether the marker is gone, and the terminal and the key store are as they were. -/
structure Cleared (c : Context) (w w' : World) : Prop where
  terminal : w'.terminal = w.terminal
  contents : c.vault.contents w' = c.vault.contents w
  marker : w'.fileSight c.marker.path = none

/-- A marker that names a key is deleted once the key store has been saved. -/
theorem Calm.cleared
    (h : c.Calm w)
    (hsave : c.vault.save keys w = (.ok (), w₁))
    (hmarked : c.marker.get? w₁ = some name) :
    c.Cleared w₁ (c.marker.clear w₁).2 := by
  cases h with
  | @inMemory m hmemory hcalls hapart =>
      rw [c.vault.save_of_memory keys hmemory] at hsave
      obtain ⟨-, rfl⟩ := Prod.mk.inj hsave
      have hfails : ∀ call path, (c.vault.save keys m).2.fails call path = false := fun call path => by
        rw [Memory.fails, (m.sameAt_save (v := c.vault) keys hapart).failing, hcalls]
      rw [c.marker.get?_of_memory rfl] at hmarked
      rw [c.marker.clear_of_memory rfl, Marker.clear_of_get? hmarked, hfails, if_neg Bool.false_ne_true]
      refine ⟨rfl, ?_, ?_⟩
      · rw [c.vault.contents_of_memory rfl, c.vault.contents_of_memory rfl]
        exact Vault.contents_congr (Memory.sameAt_place _ none hapart.symm).text rfl
      · rw [World.fileSight_of_memory _ rfl, Option.map_eq_none_iff]
        exact Memory.replace_self _ _ _
  | onDisk hdisk hstores hapart hbeside =>
      rw [c.vault.save_of_disk keys hdisk] at hsave
      obtain ⟨-, rfl⟩ := Prod.mk.inj hsave
      generalize (c.vault.save keys w.machine.disk).2 = d₁ at hmarked ⊢
      have hdisk₁ : (w.withDisk d₁).memory = none := hdisk
      have hdisk₂ : ((w.withDisk d₁).withDisk (c.marker.clear d₁).2).memory = none := hdisk
      have hclear : c.marker.clear (w.withDisk d₁) =
          ((c.marker.clear d₁).1, (w.withDisk d₁).withDisk (c.marker.clear d₁).2) :=
        c.marker.clear_of_disk hdisk₁
      have hmarked₁ : c.marker.get? d₁ = some name := (c.marker.get?_of_disk hdisk₁).symm.trans hmarked
      rw [hclear]
      refine ⟨rfl, ?_, ?_⟩
      · calc c.vault.contents ((w.withDisk d₁).withDisk (c.marker.clear d₁).2)
            = c.vault.contents (c.marker.clear d₁).2 := c.vault.contents_of_disk hdisk₂
          _ = c.vault.contents d₁ := Vault.contents_of_clearMarker hapart.symm
          _ = c.vault.contents (w.withDisk d₁) := (c.vault.contents_of_disk hdisk₁).symm
      · exact (World.fileSight_of_disk c.marker.path hdisk₂).trans (Marker.sight_clear hmarked₁)

end Files

section Removing

variable {c : Context} {w : World} {before : Collection} {name : KeyName}

/-- Whether the key of a name, and the marker if it names that key, have been deleted and nothing else. -/
structure Deleted (c : Context) (before : Collection) (name : KeyName) (w w' : World) : Prop where
  terminal : w'.terminal = w.terminal
  contents : c.vault.contents w' = .ok (before.remove name).atMillisecond
  markerDeleted : c.marker.Names name w → w'.fileSight c.marker.path = none
  markerKept : ¬ c.marker.Names name w → w'.fileSight c.marker.path = w.fileSight c.marker.path

/-- A removal that needs no question succeeds. -/
theorem Calm.removed
    (h : c.Calm w)
    (hload : c.vault.contents w = .ok before)
    (hrange : before.InStoredRange)
    (hstored : name ∈ before.names)
    (wasDefault : Bool) :
    ∃ w', c.removeStored name wasDefault w = (.ok (Removal.report name wasDefault), w') ∧
      c.Deleted before name w w' := by
  have hlater := h.of_rests (.elapse w)
  have hload' : c.vault.contents (FileSystem.elapse w) = .ok before :=
    Vault.contents_of_rests (LawfulFileSystem.readableAt hlater.readable c.vault.path) (.elapse w) hload
  have hrest := Collection.inStoredRange_remove name hrange
  obtain ⟨text, htext, -⟩ := c.vault.ofText_toText? hrest
  obtain ⟨w₁, hsave⟩ := hlater.reliable.exists_save htext
  have hkeys : before.keys ≠ [] := by
    rintro hnone
    rw [Collection.names, hnone] at hstored
    cases hstored
  have hspared := hlater.spared hload' hkeys hsave
  have hnames : c.marker.Names name (FileSystem.elapse w) ↔ c.marker.Names name w :=
    World.names_elapse h.readable c.marker name
  have hsight := (Rests.elapse w).fileSight c.marker.path
  have hafter := Vault.contents_of_save
    (LawfulFileSystem.readableAt hlater.readable c.vault.path) hrest hsave
  have hremoved : c.removeStored name wasDefault w =
      (.ok (Removal.report name wasDefault), (c.forget name w₁).2) := by
    simp [removeStored, Vault.remove, Vault.load_of_contents hload', hsave, forget]
  refine ⟨_, hremoved, ?_⟩
  by_cases hmarked : c.marker.get? w₁ = some name
  · have hforgotten : (c.forget name w₁).2 = (c.marker.clear w₁).2 := if_pos hmarked
    have hcleared := hlater.cleared hsave hmarked
    have hnamed := hnames.1 (Marker.get?_eq_some_iff.1 (hspared.hint.symm.trans hmarked))
    rw [hforgotten]
    exact ⟨hcleared.terminal.trans hspared.terminal, hcleared.contents.trans hafter,
      fun _ => hcleared.marker, fun hother => absurd hnamed hother⟩
  · have hforgotten : (c.forget name w₁).2 = w₁ := if_neg hmarked
    rw [hforgotten]
    refine ⟨hspared.terminal, hafter, fun hnamed => ?_, fun _ => hspared.marker.trans hsight⟩
    exact absurd (hspared.hint.trans (Marker.get?_eq_some_iff.2 (hnames.2 hnamed))) hmarked

end Removing

section Consent

variable {c : Context} {w : World} {before : Collection} {name : KeyName} {raw : String}

/-- A stored key is removed if that is agreed to, and the command is called off otherwise. -/
theorem remove_of_stored
    (hload : c.vault.load w = (.ok before, w))
    (hname : KeyName.read raw = .ok name)
    (hstored : name ∈ before.names)
    (confirmed : Bool) :
    ∃ agreed, (agreed = true ↔ Removal.Agreed confirmed w) ∧
      c.remove raw confirmed w =
        (if agreed then c.removeStored name (before.isDefault name) else pure (Removal.cancelled name))
          (Removal.decided confirmed name (before.isDefault name) w) := by
  have hcontains : before.contains name = true := Collection.contains_iff.2 hstored
  cases confirmed with
  | true =>
      exact ⟨true, by simp [Removal.Agreed], by simp [remove, hname, hload, hcontains, Removal.decided]⟩
  | false =>
      obtain ⟨agreed, hconfirm, hagreed⟩ := Removal.confirm_eq name (before.isDefault name) w
      exact ⟨agreed, hagreed, by simp [remove, hname, hload, hcontains, hconfirm]⟩

/-- A name that is not stored is refused at once. -/
theorem remove_of_absent
    (hload : c.vault.load w = (.ok before, w))
    (hname : KeyName.read raw = .ok name)
    (habsent : name ∉ before.names)
    (confirmed : Bool) :
    c.remove raw confirmed w = (.error (.failed (.keyNotFound name.value)), w) := by
  have hcontains : before.contains name = false := Collection.contains_eq_false_iff.2 habsent
  simp [remove, hname, hload, hcontains, Action.fail]

/-- A removal deletes only what was agreed to.

A name that is not stored is refused before anybody is asked.  A stored one is asked about once, unless the
removal was confirmed beforehand.  If it is not agreed to, the files stay as they are.  If it is, all other
keys are kept in their order, the default is cleared if it was the removed key, and the marker is deleted if
it named that key. -/
theorem removal_needs_consent
    (hcalm : c.Calm w)
    (hload : c.vault.load w = (.ok before, w))
    (hrange : before.InStoredRange)
    (raw : String)
    (confirmed : Bool) :
    (∀ name ∉ before.names, Text.trimmed raw = name.value →
      c.execute (.remove raw confirmed) w = (.error (.failed (.keyNotFound name.value)), w)) ∧
    (∀ name ∈ before.names, Text.trimmed raw = name.value →
      ∃ report w',
        c.execute (.remove raw confirmed) w = (.ok report, w') ∧
        w'.terminal = (if confirmed then w.terminal
          else (w.terminal.ask (Removal.question name (before.isDefault name))).2) ∧
        (¬ Removal.Agreed confirmed w →
          report.field? ["removed"] = some (.bool false) ∧ SameFiles w w') ∧
        (Removal.Agreed confirmed w →
          report.field? ["removed"] = some (.bool true) ∧
          ∃ after,
            c.vault.load w' = (.ok after, w') ∧
            after.keys = before.others name ∧
            after.defaultName = (if before.defaultName = some name then none else before.defaultName) ∧
            (c.marker.Names name w → w'.fileSight c.marker.path = none) ∧
            (¬ c.marker.Names name w → w'.fileSight c.marker.path = w.fileSight c.marker.path))) := by
  refine ⟨fun name habsent hname => ?_, fun name hstored hname => ?_⟩
  · exact remove_of_absent hload (KeyName.read_eq_ok_iff.2 hname) habsent confirmed
  · obtain ⟨agreed, hagreed, hremove⟩ :=
      remove_of_stored hload (KeyName.read_eq_ok_iff.2 hname) hstored confirmed
    have hfiles := Removal.sameFiles_decided confirmed name (before.isDefault name) w
    have hterminal : (Removal.decided confirmed name (before.isDefault name) w).terminal =
        (if confirmed then w.terminal
          else (w.terminal.ask (Removal.question name (before.isDefault name))).2) := by
      cases confirmed with
      | true => rfl
      | false => rfl
    cases agreed with
    | false =>
        have hrefused : ¬ Removal.Agreed confirmed w := fun h => Bool.false_ne_true (hagreed.2 h)
        exact ⟨_, _, hremove, hterminal, fun _ => ⟨rfl, hfiles⟩, fun h => absurd h hrefused⟩
    | true =>
        have hcontents := Vault.contents_of_load hload
        rw [← hfiles.contents c.vault] at hcontents
        have hdecided : c.Calm (Removal.decided confirmed name (before.isDefault name) w) :=
          hcalm.of_rests (Removal.rests_decided confirmed name (before.isDefault name) w)
        obtain ⟨w', hremoved, hdeleted⟩ :=
          hdecided.removed hcontents hrange hstored (before.isDefault name)
        have hmarker := hfiles.fileSight c.marker.path
        have hnamed := hfiles.names c.marker name
        refine ⟨_, w', hremove.trans hremoved, hdeleted.terminal.trans hterminal,
          fun h => absurd (hagreed.1 rfl) h, fun _ => ⟨rfl, _, Vault.load_of_contents hdeleted.contents,
            before.keys_of_remove name, ?_, fun h => hdeleted.markerDeleted (hnamed.2 h),
            fun h => (hdeleted.markerKept (mt hnamed.1 h)).trans hmarker⟩⟩
        simp [Collection.remove, Collection.atMillisecond, Collection.isDefault]

end Consent

section Example

/-- A context whose files are in a directory of their own. -/
def inDirectory : Context :=
  .standard .standard ⟨"/d/keys.json", "/d/last_used"⟩ ⟨0⟩ fun _ => ""

/-- The name of a key that is to stay. -/
def spareName : KeyName :=
  ⟨"spare", by decide, by decide⟩

/-- A key store with that key behind another one. -/
def storeWithSpare : String :=
  "\x7b\"keys\":[\x7b\"name\":\"a\",\"key\":\"k1\",\"createdAt\":\"2024-01-01T00:00:00Z\"\x7d," ++
    "\x7b\"name\":\"spare\",\"key\":\"k2\",\"createdAt\":\"2024-01-01T00:00:00Z\"\x7d]\x7d"

/-- A world with that key store on disk, a marker that names the other key, and somebody who will say yes. -/
def worldToAsk : World :=
  let disk : Disk :=
    ⟨[(["d"], .directory 0o755), (["d", "keys.json"], .file storeWithSpare.toUTF8 0o600),
      (["d", "last_used"], .file "a\n".toUTF8 0o600)]⟩
  .fresh none { Host.Machine.bare with disk := disk } [.ok " Yes\n"]

theorem contents_worldToAsk :
    ∃ before, inDirectory.vault.contents worldToAsk = .ok before ∧ before.InStoredRange ∧
      before.names = [Vault.replacement.name, spareName] := by
  have hfacts : (inDirectory.vault.contents worldToAsk).toOption.any (fun c =>
      decide c.InStoredRange && decide (c.names = [Vault.replacement.name, spareName])) = true := by
    decide +kernel
  obtain ⟨before, hcontents, htest⟩ := Action.exists_of_any_toOption hfacts
  simp only [Bool.and_eq_true, decide_eq_true_eq] at htest
  exact ⟨before, hcontents, htest⟩

theorem removal_needs_consent_on_disk :
    ∃ before report w' after,
      inDirectory.Calm worldToAsk ∧
      inDirectory.vault.load worldToAsk = (.ok before, worldToAsk) ∧
      before.InStoredRange ∧
      before.names = [Vault.replacement.name, spareName] ∧
      inDirectory.execute (.remove " a " false) worldToAsk = (.ok report, w') ∧
      report.field? ["removed"] = some (.bool true) ∧
      inDirectory.vault.load w' = (.ok after, w') ∧
      after.names = [spareName] ∧
      w'.fileSight inDirectory.marker.path = none := by
  have hcalm : inDirectory.Calm worldToAsk :=
    .onDisk rfl (fun _ => rfl) (by decide +kernel) (by decide +kernel)
  obtain ⟨before, hcontents, hrange, hnames⟩ := contents_worldToAsk
  have hload := Vault.load_of_contents hcontents
  have hstored : Vault.replacement.name ∈ before.names := by
    rw [hnames]
    exact List.mem_cons_self
  obtain ⟨report, w', hreport, -, -, hdeleted⟩ :=
    (removal_needs_consent hcalm hload hrange " a " false).2 Vault.replacement.name hstored
      (by decide +kernel)
  have hagreed : Removal.Agreed false worldToAsk := .inr ⟨" Yes\n", rfl, .inr (by decide +kernel)⟩
  obtain ⟨hremoved, after, hafter, hkeys, -, hmarker, -⟩ := hdeleted hagreed
  have hnamesAfter : after.names = [spareName] :=
    calc after.names
        = (before.others Vault.replacement.name).map Profile.name := congrArg (List.map Profile.name) hkeys
      _ = before.names.filter (· != Vault.replacement.name) := Collection.map_name_others _ _
      _ = [spareName] := by
          rw [hnames]
          decide
  have hnamed : inDirectory.marker.Names Vault.replacement.name worldToAsk :=
    Marker.get?_eq_some_iff.1 (by decide +kernel)
  exact ⟨before, report, w', after, hcalm, hload, hrange, hnames, hreport, hremoved, hafter, hnamesAfter,
    hmarker hnamed⟩

end Example

end Context
end Keyring
