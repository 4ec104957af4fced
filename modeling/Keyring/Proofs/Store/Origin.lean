import Mathlib.Data.List.Nodup
import Keyring.Proofs.Store.Change

/-!
# Where loaded keys come from

A key of a collection that has been loaded comes from one entry of the document in the file: the one
under its name.  Its secret is what stands there, and its base URL is what remains of the one that stands
there after trimming, unless that is nothing.
-/

namespace Keyring

namespace Text

/-- What is left of a text that does not only hold blanks. -/
theorem normalized?_eq_some_iff
    {raw kept : String} :
    normalized? raw = some kept ↔ isBlankText raw = false ∧ kept = trimmed raw := by
  have hblank : (trimmed raw).isEmpty = isBlankText raw := by
    rw [Bool.eq_iff_iff, String.isEmpty_iff, isBlankText_iff]
  unfold normalized?
  simp only [hblank]
  cases isBlankText raw with
  | true => simp
  | false => simp [eq_comm]

end Text

/-- What a text is read as is what is left of it after trimming. -/
theorem BaseUrl.value_of_ofText
    {raw : String}
    {url : BaseUrl}
    (h : ofText raw = .ok url) :
    url.value = Text.trimmed raw := by
  unfold ofText at h
  split at h
  · cases h
    rfl
  · split at h
    · cases h
    · cases h
      rfl

/-- The endpoint that a text sets is what is left of it after trimming, unless that is nothing. -/
theorem BaseUrl.map_value_set?_of_ofText
    {raw : String}
    {url : BaseUrl}
    (h : ofText raw = .ok url) :
    (set? (some url)).map value = Text.normalized? raw := by
  have hvalue := value_of_ofText h
  simp only [Text.normalized?, ← hvalue, set?, isEmpty, Option.filter_some]
  cases url.value.isEmpty with
  | true => rfl
  | false => rfl

namespace StoredKey

variable {k : StoredKey}

theorem baseUrlText_of_endpoint
    {url : Option BaseUrl}
    (h : k.endpoint = .ok url) :
    (BaseUrl.set? url).map BaseUrl.value = k.baseUrl.bind Text.normalized? := by
  unfold endpoint at h
  split at h
  · next hnone =>
      cases h
      rw [hnone]
      rfl
  · next raw hraw =>
      cases hread : BaseUrl.ofText raw with
      | error fault =>
          rw [hread] at h
          cases h
      | ok u =>
          rw [hread] at h
          cases h
          rw [hraw, Option.bind_some, BaseUrl.map_value_set?_of_ofText hread]

/-- An entry that is read as a key gives it its name, its secret and its base URL. -/
theorem profile_eq_ok
    {p : Profile}
    (h : k.profile = .ok p) :
    KeyName.ofText k.name = .ok p.name ∧ p.secret = k.key ∧
      p.baseUrlText = k.baseUrl.bind Text.normalized? := by
  unfold profile at h
  split at h
  · cases h
  · next name hname =>
      split at h
      · cases h
      · next url hurl =>
          split at h
          · cases h
          · cases h
            exact ⟨hname, rfl, baseUrlText_of_endpoint hurl⟩

end StoredKey

namespace Record

theorem profiles_of_profilesFrom
    {index : Nat}
    {keys : List StoredKey}
    {profiles : List Profile}
    (h : profilesFrom index keys = .ok profiles) :
    keys.map StoredKey.profile = profiles.map .ok := by
  induction keys generalizing index profiles with
  | nil =>
      cases h
      rfl
  | cons k keys ih =>
      unfold profilesFrom at h
      split at h
      · cases h
      · next p hp =>
          split at h
          · cases h
          · next ps hps =>
              cases h
              rw [List.map_cons, List.map_cons, hp, ih hps]

theorem names_of_profiles
    {keys : List StoredKey}
    {profiles : List Profile}
    (h : keys.map StoredKey.profile = profiles.map .ok) :
    keys.map (fun k => KeyName.ofText k.name) = (profiles.map Profile.name).map .ok := by
  induction keys generalizing profiles with
  | nil =>
      cases profiles with
      | nil => rfl
      | cons p profiles => cases h
  | cons k keys ih =>
      cases profiles with
      | nil => cases h
      | cons p profiles =>
          obtain ⟨hp, hrest⟩ := List.cons.inj h
          rw [List.map_cons, List.map_cons, List.map_cons, ih hrest, (StoredKey.profile_eq_ok hp).1]

theorem keys_of_ofParts
    {keys : List Profile}
    {defaultName : Option KeyName}
    {c : Collection}
    (h : Collection.ofParts keys defaultName = .ok c) :
    c.keys = keys := by
  unfold Collection.ofParts at h
  split at h
  · cases h
  · simp only at h
    split at h
    · cases h
      rfl
    · split at h
      · next hset =>
          cases h
          exact (Collection.setDefault?_eq_some hset).1
      · cases h

/-- The keys of a collection are read from the entries one by one. -/
theorem profiles_of_collection
    {r : Record}
    {c : Collection}
    (h : r.collection = .ok c) :
    r.keys.map StoredKey.profile = c.keys.map .ok := by
  unfold collection at h
  split at h
  · cases h
  · split at h
    · cases h
    · next profiles hprofiles =>
        split at h
        · cases h
        · next name hname =>
            cases hparts : Collection.ofParts profiles name with
            | error fault =>
                rw [hparts] at h
                cases h
            | ok c' =>
                rw [hparts] at h
                cases h
                rw [keys_of_ofParts hparts, profiles_of_profilesFrom hprofiles]

end Record

/-- A key of a collection that has been loaded is read from the only entry under its name. -/
theorem Vault.exists_entry_of_mem
    {σ : Type}
    [FileSystem σ]
    {v : Vault}
    {s : σ}
    {c : Collection}
    {p : Profile}
    (hcontents : v.contents s = .ok c)
    (hp : p ∈ c.keys) :
    ∃ text record k,
      FileSystem.read v.path s = .ok text ∧ Record.ofText text = .ok record ∧
      k ∈ record.keys ∧ k.profile = .ok p ∧
      ∀ k' ∈ record.keys, KeyName.ofText k'.name = .ok p.name → k' = k := by
  obtain ⟨text, record, hread, hrecord, hentries⟩ :
      ∃ text record, FileSystem.read v.path s = .ok text ∧ Record.ofText text = .ok record ∧
        record.keys.map StoredKey.profile = c.keys.map .ok := by
    unfold contents at hcontents
    split at hcontents
    · split at hcontents
      · cases hcontents
      · next text hread =>
          unfold ofText at hcontents
          split at hcontents
          · cases hcontents
          · next record hrecord =>
              cases hcollection : record.collection with
              | error fault =>
                  rw [hcollection] at hcontents
                  cases hcontents
              | ok c' =>
                  rw [hcollection] at hcontents
                  cases hcontents
                  exact ⟨text, record, hread, hrecord, Record.profiles_of_collection hcollection⟩
    · cases hcontents
      cases hp
  have hmem : Except.ok p ∈ record.keys.map StoredKey.profile := by
    rw [hentries]
    exact List.mem_map_of_mem hp
  obtain ⟨k, hk, hprofile⟩ := List.mem_map.1 hmem
  refine ⟨text, record, k, hread, hrecord, hk, hprofile, fun k' hk' hname => ?_⟩
  -- The names that the entries are read as are those of the keys, so no two entries share one.
  have hnodup : (record.keys.map fun e => KeyName.ofText e.name).Nodup := by
    rw [Record.names_of_profiles hentries]
    exact c.names_nodup.map fun _ _ => Except.ok.inj
  exact List.inj_on_of_nodup_map hnodup hk' hk
    (hname.trans (StoredKey.profile_eq_ok hprofile).1.symm)

end Keyring
