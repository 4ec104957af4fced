import Keyring.Proofs.Action.Agreement
import Keyring.Proofs.Command.Steps
import Keyring.Proofs.Twins

/-!
# The steps of commands in twins

The steps of commands leave twins and yield the same in both, or keys that differ in secrets only.  Reading
secrets may yield different ones as long as these have the same mask.  Choosing a key asks selectors, so there
the two worlds must be together.
-/

namespace Keyring

open Keyring.Action (Agree)
open World (Twins Together conceals_twins)

variable {v : Vault} {P : World → World → Prop}

namespace Vault

/-- Twins load what is equal when veiled, and loading changes nothing. -/
theorem agree_load
    {E : World → World → Prop}
    (hP : ∀ s t, P s t → Twins v s t)
    (hE : ∀ s t, P s t → E s t) :
    Agree P v.load v.load (fun c d s t => c.veiled = d.veiled ∧ P s t) E := by
  intro s t hst
  rcases eq_error_or_eq_ok_of_map_eq (map_veiled_contents (conceals_twins v) (hP s t hst)) with
    ⟨f, hs, ht⟩ | ⟨c, d, hs, ht, hveiled⟩
  · exact .inr ⟨.failed f, s, t, load_of_contents_eq_error hs, load_of_contents_eq_error ht,
      hE s t hst⟩
  · exact .inl ⟨c, d, s, t, load_of_contents hs, load_of_contents ht, hveiled, hst⟩

/-- Twins load what is equal when veiled, and remain twins. -/
theorem agree_load_twins :
    Agree (Twins v) v.load v.load (fun c d s t => c.veiled = d.veiled ∧ Twins v s t)
      (Twins v) :=
  agree_load (fun _ _ hst => hst) fun _ _ hst => hst

theorem agree_save
    {c d : Collection}
    (h : c.veiled = d.veiled) :
    Agree (Twins v) (v.save c) (v.save d) (fun _ _ => Twins v) (Twins v) :=
  (Agree.of_fst fun _ _ hst => save_alike (conceals_twins v) hst h).mono (fun _ _ hst => hst)
    fun _ _ _ _ hq => hq.2

theorem agree_find
    {E : World → World → Prop}
    (hP : ∀ s t, P s t → Twins v s t)
    (hE : ∀ s t, P s t → E s t)
    (name : KeyName) :
    Agree P (v.find name) (v.find name)
      (fun p q s t => p.map Profile.veiled = q.map Profile.veiled ∧ P s t) E := by
  refine (agree_load hP hE).bind fun c d => Agree.assume fun h => Agree.pure fun s t hst => ⟨?_, hst⟩
  rw [← Collection.find?_veiled, ← Collection.find?_veiled, h]

theorem agree_getDefault
    {E : World → World → Prop}
    (hP : ∀ s t, P s t → Twins v s t)
    (hE : ∀ s t, P s t → E s t) :
    Agree P v.getDefault v.getDefault
      (fun p q s t => p.map Profile.veiled = q.map Profile.veiled ∧ P s t) E := by
  refine (agree_load hP hE).bind fun c d => Agree.assume fun h => Agree.pure fun s t hst => ⟨?_, hst⟩
  rw [← Collection.default?_veiled, ← Collection.default?_veiled, h]

section Changes

variable {p q : Profile}

theorem agree_add
    (h : p.veiled = q.veiled) :
    Agree (Twins v) (v.add p) (v.add q) (fun _ _ => Twins v) (Twins v) := by
  refine agree_load_twins.bind fun c d => Agree.assume fun hcd => agree_save ?_
  rw [Collection.veiled_add, Collection.veiled_add, hcd, h]

theorem agree_update
    (h : p.veiled = q.veiled) :
    Agree (Twins v) (v.update p) (v.update q) (fun _ _ => Twins v)
      (Twins v) := by
  refine agree_load_twins.bind fun c d => Agree.assume fun hcd => ?_
  have hupdated : (updated c p).map Collection.veiled = (updated d q).map Collection.veiled := by
    rw [← Collection.updated_veiled, ← Collection.updated_veiled, hcd, h]
  obtain ⟨c', hc'⟩ := c.exists_updated p
  obtain ⟨d', hd'⟩ := d.exists_updated q
  rw [hc', hd'] at hupdated
  simp only [hc', hd']
  exact agree_save (Option.some.inj hupdated)

theorem agree_remove
    (name : KeyName) :
    Agree (Twins v) (v.remove name) (v.remove name) (fun _ _ => Twins v)
      (Twins v) := by
  refine agree_load_twins.bind fun c d => Agree.assume fun hcd => ?_
  refine (agree_save ?_).bind fun _ _ => Agree.pure fun _ _ hst => hst
  rw [Collection.veiled_remove, Collection.veiled_remove, hcd]

theorem agree_setDefault
    (name : KeyName) :
    Agree (Twins v) (v.setDefault name) (v.setDefault name) (fun _ _ => Twins v)
      (Twins v) := by
  refine agree_load_twins.bind fun c d => Agree.assume fun hcd => ?_
  have hset : (c.setDefault? name).map Collection.veiled =
      (d.setDefault? name).map Collection.veiled := by
    rw [← Collection.setDefault?_veiled, ← Collection.setDefault?_veiled, hcd]
  rcases eq_none_or_eq_some_of_map_eq hset with ⟨hc, hd⟩ | ⟨c', d', hc, hd, hveiled⟩
  · simp only [hc, hd]
    exact Agree.fail _ fun _ _ hst => hst
  · simp only [hc, hd]
    exact agree_save hveiled

end Changes
end Vault

section Steps

/-- Whether a source yields secrets with the same mask in two worlds, or fails in the same way. -/
def ReadsAlike (spec : String) (w₁ w₂ : World) : Prop :=
  (readSecret spec w₁).1.map mask = (readSecret spec w₂).1.map mask

theorem ReadsAlike.of_eq_ok
    {spec secret secret' : String}
    {s t : World}
    (hs : (readSecret spec s).1 = .ok secret)
    (ht : (readSecret spec t).1 = .ok secret')
    (hmask : mask secret = mask secret') :
    ReadsAlike spec s t := by
  rw [ReadsAlike, hs, ht]
  exact congrArg Except.ok hmask

/-- Only a prompt shows something. -/
theorem terminal_raw
    {source : SecretSource}
    (h : ∀ label, source ≠ .prompt label)
    (w : World) :
    (source.raw w).2.terminal = w.terminal := by
  cases source with
  | prompt label => exact absurd rfl (h label)
  | literal text => rfl
  | input =>
      simp only [SecretSource.raw]
      split
      · rfl
      · rfl
  | file path =>
      simp only [SecretSource.raw]
      split
      · rfl
      · rfl
  | environment name =>
      simp only [SecretSource.raw]
      split
      · rfl
      · rfl

/-- Reading a secret shows the same on both terminals. -/
theorem alike_terminal_readSecret
    {s t : World}
    (h : s.terminal.Alike t.terminal)
    (spec : String) :
    (readSecret spec s).2.terminal.Alike (readSecret spec t).2.terminal := by
  rw [readSecret_snd, readSecret_snd]
  by_cases hprompt : ∃ label, SecretSource.ofText spec = .prompt label
  · obtain ⟨label, hlabel⟩ := hprompt
    rw [hlabel]
    rcases h.enter (SecretSource.promptText label) with ⟨hs, ht⟩ | ⟨e, e', u, u', hs, ht, hafter⟩
    · simp only [SecretSource.raw, hs, ht]
      exact h
    · simp only [SecretSource.raw, hs, ht]
      exact hafter
  · have hother : ∀ label, SecretSource.ofText spec ≠ .prompt label :=
      fun label hlabel => hprompt ⟨label, hlabel⟩
    rw [terminal_raw hother, terminal_raw hother]
    exact h

theorem agree_secretFrom
    (spec : String) :
    Agree (fun s t => ReadsAlike spec s t ∧ Twins v s t) (secretFrom spec) (secretFrom spec)
      (fun a b s t => mask a = mask b ∧ Twins v s t) (Twins v) := by
  rintro s t ⟨hreads, hst⟩
  have hterminal := alike_terminal_readSecret hst.terminal spec
  obtain ⟨i, u, hi⟩ := exists_input_of_readSecret spec s
  obtain ⟨j, u', hj⟩ := exists_input_of_readSecret spec t
  have hafter : Twins v (readSecret spec s).2 (readSecret spec t).2 := by
    rw [hi, hj] at hterminal ⊢
    exact ⟨hst.files.of_eq rfl rfl rfl rfl, hterminal, hst.output, hst.consultations, hst.pickers,
      hst.launches⟩
  have hresult : ∀ (w : World) (r : Except Failure String), (readSecret spec w).1 = r →
      secretFrom spec w = (r.mapError .failed, (readSecret spec w).2) := by
    rintro w r rfl
    rfl
  rcases eq_error_or_eq_ok_of_map_eq hreads with ⟨f, hs, ht⟩ | ⟨a, b, hs, ht, hmask⟩
  · exact .inr ⟨.failed f, _, _, hresult s _ hs, hresult t _ ht, hafter⟩
  · exact .inl ⟨a, b, _, _, hresult s _ hs, hresult t _ ht, hmask, hafter⟩

theorem map_veiled_changeBaseUrl
    (change : KeyEdit)
    (p : Profile) :
    (change.changeBaseUrl p).map Profile.veiled = change.changeBaseUrl p.veiled := by
  unfold KeyEdit.changeBaseUrl
  split
  · rfl
  · next raw _ =>
      cases KeyEdit.endpoint raw with
      | error f => rfl
      | ok url => rfl

theorem veiled_changeNote
    (change : KeyEdit)
    (p : Profile) :
    (change.changeNote p).veiled = change.changeNote p.veiled := by
  unfold KeyEdit.changeNote
  split
  · rfl
  · next raw _ =>
      generalize KeyEdit.noteOf raw = note
      rfl

theorem agree_changeSecret
    (change : KeyEdit)
    {p q : Profile}
    (h : p.veiled = q.veiled) :
    Agree (fun s t => (∀ spec ∈ change.secret, ReadsAlike spec s t) ∧ Twins v s t)
      (change.changeSecret p) (change.changeSecret q)
      (fun p q s t => p.veiled = q.veiled ∧ Twins v s t) (Twins v) := by
  unfold KeyEdit.changeSecret
  split
  · exact Agree.pure fun s t hst => ⟨h, hst.2⟩
  · next spec hspec =>
      have hsecret : Agree
          (fun s t => (∀ spec ∈ change.secret, ReadsAlike spec s t) ∧ Twins v s t)
          (secretFrom spec) (secretFrom spec)
          (fun a b s t => mask a = mask b ∧ Twins v s t) (Twins v) :=
        (agree_secretFrom spec).mono (fun s t hst => ⟨hst.1 spec hspec, hst.2⟩) fun _ _ _ _ hq => hq
      refine hsecret.bind fun a b => Agree.assume fun hmask => Agree.pure fun s t hst => ⟨?_, hst⟩
      exact Profile.veiled_withSecret_eq h hmask

theorem agree_confirm
    (name : KeyName)
    (wasDefault : Bool) :
    Agree (Twins v) (Removal.confirm name wasDefault) (Removal.confirm name wasDefault)
      (fun a b s t => a = b ∧ Twins v s t) (Twins v) := by
  intro s t hst
  obtain ⟨hreply, hafter⟩ := hst.ask (Removal.question name wasDefault)
  unfold Removal.confirm
  cases hs : s.ask (Removal.question name wasDefault) with
  | mk reply s' =>
      cases ht : t.ask (Removal.question name wasDefault) with
      | mk reply' t' =>
          rw [hs, ht] at hreply hafter
          cases hreply
          cases reply with
          | error fault => exact .inl ⟨false, false, s', t', rfl, rfl, rfl, hafter⟩
          | ok answer =>
              exact .inl ⟨Removal.agrees answer, Removal.agrees answer, s', t', rfl, rfl, rfl, hafter⟩

end Steps

namespace Chooser

variable {c : Chooser} {keys keys' : Collection}

theorem hint?_eq
    {s t : World}
    (h : keys.veiled = keys'.veiled)
    (hst : Twins v s t) :
    c.hint? keys s = c.hint? keys' t := by
  have hcontains : keys.contains = keys'.contains := by
    funext name
    rw [← Collection.contains_veiled, h, Collection.contains_veiled]
  rw [hint?, hint?, c.marker.get?_alike (conceals_twins v) hst, hcontains]

theorem agree_ask
    (h : keys.veiled = keys'.veiled) :
    Agree (Together v) (c.ask keys) (c.ask keys') (fun a b s t => a = b ∧ Together v s t)
      (Together v) := by
  intro s t hst
  have hempty : keys.isEmpty = keys'.isEmpty := by
    rw [← Collection.isEmpty_veiled, h, Collection.isEmpty_veiled]
  unfold Chooser.ask
  rw [hempty, hint?_eq h hst.toTwins]
  cases keys'.isEmpty with
  | true => exact .inr ⟨.failed .noKeys, s, t, rfl, rfl, hst⟩
  | false =>
      obtain ⟨hchoice, hafter⟩ := Selector.chooseWith_together h (c.hint? keys' t) c.selectors hst
      cases hs : Selector.chooseWith c.selectors keys (c.hint? keys' t) s with
      | mk choice s' =>
          cases ht : Selector.chooseWith c.selectors keys' (c.hint? keys' t) t with
          | mk choice' t' =>
              rw [hs, ht] at hchoice hafter
              cases hchoice
              cases choice with
              | error f => exact .inr ⟨.failed f, s', t', rfl, rfl, hafter⟩
              | ok name => exact .inl ⟨name, name, s', t', rfl, rfl, rfl, hafter⟩

theorem agree_name
    (h : keys.veiled = keys'.veiled)
    (request : Request) :
    Agree (Together v) (c.name keys request) (c.name keys' request)
      (fun a b s t => a = b ∧ Together v s t) (Together v) := by
  unfold Chooser.name
  split
  · next raw _ =>
      have hread : Agree (Together v) (.check (KeyName.read raw)) (.check (KeyName.read raw))
          (fun a b s t => a = b ∧ Together v s t) (Together v) :=
        Agree.check_self _ fun _ _ hst => hst
      refine hread.bind fun a b => Agree.assume fun hab => Agree.pure fun s t hst => ⟨?_, hst⟩
      rw [hab]
  · split
    · have hdefault : keys.default?.map Profile.veiled = keys'.default?.map Profile.veiled := by
        rw [← Collection.default?_veiled, ← Collection.default?_veiled, h]
      rcases eq_none_or_eq_some_of_map_eq hdefault with ⟨hs, ht⟩ | ⟨p, q, hs, ht, hveiled⟩
      · simp only [hs, ht]
        exact Agree.fail _ fun _ _ hst => hst
      · have hname : p.name = q.name := (congrArg Profile.name hveiled :)
        simp only [hs, ht]
        exact Agree.pure fun s t hst => ⟨by rw [hname], hst⟩
    · refine (agree_ask h).bind fun a b => Agree.assume fun hab => Agree.pure fun s t hst => ⟨?_, hst⟩
      rw [hab]

theorem agree_remember
    (name : KeyName)
    (source : KeySource) :
    Agree (Together v) (c.remember name source) (c.remember name source)
      (fun _ _ => Together v) (Together v) := by
  refine Agree.ite Iff.rfl (fun _ => Agree.pure fun _ _ hst => hst) fun _ => ?_
  refine Agree.change fun s t hst => ?_
  exact hst.onFiles ((conceals_twins v).write hst.toTwins c.marker.path name.value).2

/-- Together, the same key is chosen in the same way. -/
theorem agree_resolve
    (request : Request) :
    Agree (Together c.vault) (c.resolve request) (c.resolve request)
      (fun a b s t => (a.key.veiled = b.key.veiled ∧ a.source = b.source) ∧
        Together c.vault s t)
      (Together c.vault) := by
  refine (Vault.agree_load (fun _ _ hst => hst.toTwins) fun _ _ hst => hst).bind fun keys keys' =>
    Agree.assume fun hkeys => ?_
  refine (agree_name hkeys request).bind ?_
  rintro ⟨name, source⟩ choice
  refine Agree.assume ?_
  rintro rfl
  have hfind : (keys.find? name).map Profile.veiled = (keys'.find? name).map Profile.veiled := by
    rw [← Collection.find?_veiled, ← Collection.find?_veiled, hkeys]
  rcases eq_none_or_eq_some_of_map_eq hfind with ⟨hs, ht⟩ | ⟨p, q, hs, ht, hveiled⟩
  · simp only [hs, ht]
    exact Agree.fail _ fun _ _ hst => hst
  · simp only [hs, ht]
    exact (agree_remember name source).bind fun _ _ => Agree.pure fun s t hst => ⟨⟨hveiled, rfl⟩, hst⟩

end Chooser

end Keyring
