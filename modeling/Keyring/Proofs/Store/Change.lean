import Keyring.Proofs.Store.RoundTrip

/-!
# What changes of the key store leave

A change of the key store that succeeds leaves what is kept of the changed collection.  There is one
statement for each operation; the collection it names is the one that the same operation makes of a
collection in memory.
-/

namespace Keyring

namespace Collection

/-- A stored key is found under its name. -/
theorem contains_iff
    {c : Collection}
    {name : KeyName} :
    c.contains name = true ↔ name ∈ c.names := by
  simp [contains, find?, names]

theorem contains_eq_false_iff
    {c : Collection}
    {name : KeyName} :
    c.contains name = false ↔ name ∉ c.names := by
  rw [Bool.eq_false_iff, Ne, contains_iff]

/-- Only the key that has been put is new. -/
theorem mem_of_mem_put
    {p key : Profile}
    {keys : List Profile}
    (h : p ∈ put key keys) :
    p ∈ keys ∨ p = key := by
  induction keys with
  | nil => exact .inr (List.mem_singleton.1 h)
  | cons k keys ih =>
      unfold put at h
      split at h
      · rcases List.mem_cons.1 h with rfl | hkeys
        · exact .inr rfl
        · exact .inl (List.mem_cons_of_mem k hkeys)
      · rcases List.mem_cons.1 h with rfl | hput
        · exact .inl List.mem_cons_self
        · rcases ih hput with hkeys | rfl
          · exact .inl (List.mem_cons_of_mem k hkeys)
          · exact .inr rfl

/-- Putting a key whose name is not there appends it. -/
theorem put_of_not_mem
    {key : Profile}
    {keys : List Profile}
    (h : key.name ∉ keys.map Profile.name) :
    put key keys = keys ++ [key] := by
  induction keys with
  | nil => rfl
  | cons k keys ih =>
      rw [List.map_cons, List.mem_cons, not_or] at h
      rw [put, if_neg fun e => h.1 e.symm, ih h.2, List.cons_append]

/-- All names but one are there after its key has been removed. -/
theorem mem_names_remove
    {c : Collection}
    {name n : KeyName} :
    n ∈ (c.remove name).names ↔ n ∈ c.names ∧ n ≠ name := by
  simp only [names, remove, List.mem_map, List.mem_filter, bne_iff_ne]
  constructor
  · rintro ⟨p, ⟨hp, hne⟩, rfl⟩
    exact ⟨⟨p, hp, rfl⟩, hne⟩
  · rintro ⟨⟨p, hp, rfl⟩, hne⟩
    exact ⟨p, ⟨hp, hne⟩, rfl⟩

/-- A key that has been removed is not there. -/
theorem not_mem_names_remove
    (c : Collection)
    (name : KeyName) :
    name ∉ (c.remove name).names :=
  fun hmem => (mem_names_remove.1 hmem).2 rfl

/-- The default after the key of that name has been replaced. -/
def defaultAfterUpdate
    (c : Collection)
    (name : KeyName) :
    Option KeyName :=
  if c.isDefault name || (c.remove name).isEmpty then some name else c.defaultName

/-- Making a key the default changes nothing else. -/
theorem setDefault?_eq_some
    {c c' : Collection}
    {name : KeyName}
    (h : c.setDefault? name = some c') :
    c'.keys = c.keys ∧ c'.defaultName = some name := by
  unfold setDefault? at h
  split at h
  · cases h
    exact ⟨rfl, rfl⟩
  · cases h

/-- A key can always be replaced. -/
theorem exists_updated
    (c : Collection)
    (key : Profile) :
    ∃ c', Vault.updated c key = some c' := by
  unfold Vault.updated
  simp only
  split
  · have hmem : key.name ∈ ((c.remove key.name).add key).names :=
      name_mem_put key (c.remove key.name).keys
    obtain ⟨c', hset, -⟩ := setDefault?_of_mem hmem
    exact ⟨c', hset⟩
  · exact ⟨_, rfl⟩

/-- A key is replaced by one that comes last. -/
theorem updated_eq_some
    {c c' : Collection}
    {key : Profile}
    (h : Vault.updated c key = some c') :
    c'.keys = (c.keys.filter fun k => k.name != key.name) ++ [key] ∧
      c'.defaultName = c.defaultAfterUpdate key.name := by
  have hkeys : ((c.remove key.name).add key).keys =
      (c.keys.filter fun k => k.name != key.name) ++ [key] :=
    put_of_not_mem (c.not_mem_names_remove key.name)
  unfold Vault.updated at h
  simp only at h
  split at h
  · next hdefault =>
      obtain ⟨hset, hname⟩ := setDefault?_eq_some h
      rw [hset, hname, defaultAfterUpdate, hdefault, Bool.true_or, if_pos rfl]
      exact ⟨hkeys, rfl⟩
  · next hdefault =>
      cases h
      rw [Bool.not_eq_true] at hdefault
      have hremoved : (c.remove key.name).defaultName = c.defaultName := by
        simp [remove, hdefault]
      rw [defaultAfterUpdate, hdefault, Bool.false_or, ← hremoved]
      exact ⟨hkeys, rfl⟩

/-- No name is missing after a key has been replaced. -/
theorem names_subset_updated
    {c c' : Collection}
    {key : Profile}
    (h : Vault.updated c key = some c') :
    c.names ⊆ c'.names := by
  intro n hn
  rw [names, (updated_eq_some h).1, List.map_append, List.mem_append]
  by_cases hname : n = key.name
  · exact .inr (by simp [hname])
  · exact .inl (mem_names_remove.2 ⟨hn, hname⟩)

section InStoredRange

variable {c c' : Collection} {key : Profile} {name : KeyName}

/-- Adding a key keeps a collection in the stored range. -/
theorem inStoredRange_add
    (hrange : c.InStoredRange)
    (hkey : key.createdAt.InStoredRange) :
    (c.add key).InStoredRange := by
  intro p hp
  rcases mem_of_mem_put hp with hold | rfl
  · exact hrange p hold
  · exact hkey

/-- Replacing a key keeps a collection in the stored range. -/
theorem inStoredRange_updated
    (hrange : c.InStoredRange)
    (hkey : key.createdAt.InStoredRange)
    (hupdated : Vault.updated c key = some c') :
    c'.InStoredRange := by
  intro p hp
  rw [(updated_eq_some hupdated).1, List.mem_append, List.mem_singleton] at hp
  rcases hp with hold | rfl
  · exact hrange p (List.mem_filter.1 hold).1
  · exact hkey

/-- Removing a key keeps a collection in the stored range. -/
theorem inStoredRange_remove
    (name : KeyName)
    (hrange : c.InStoredRange) :
    (c.remove name).InStoredRange := by
  intro p hp
  exact hrange p (List.mem_filter.1 hp).1

/-- Making a key the default keeps a collection in the stored range. -/
theorem inStoredRange_setDefault?
    (hrange : c.InStoredRange)
    (hset : c.setDefault? name = some c') :
    c'.InStoredRange := by
  intro p hp
  rw [(setDefault?_eq_some hset).1] at hp
  exact hrange p hp

end InStoredRange

end Collection

open LawfulFileSystem (ReadableAt)

namespace Vault

variable {σ : Type} [FileSystem σ]
variable {v : Vault} {c : Collection} {key : Profile} {name : KeyName} {s s' : σ}

/-- A successful addition saves the collection with the key added. -/
theorem save_of_add
    (hload : v.contents s = .ok c)
    (hadd : v.add key s = (.ok (), s')) :
    v.save (c.add key) s = (.ok (), s') := by
  simp only [add, Action.bind_apply, load_of_contents hload] at hadd
  exact hadd

/-- A successful update saves the collection with the key replaced. -/
theorem save_of_update
    (hload : v.contents s = .ok c)
    (hupdate : v.update key s = (.ok (), s')) :
    ∃ c', updated c key = some c' ∧ v.save c' s = (.ok (), s') := by
  obtain ⟨c', hupdated⟩ := c.exists_updated key
  simp only [update, Action.bind_apply, load_of_contents hload, hupdated] at hupdate
  exact ⟨c', hupdated, hupdate⟩

/-- A successful update has loaded the key store. -/
theorem exists_contents_of_update
    (hupdate : v.update key s = (.ok (), s')) :
    ∃ c, v.contents s = .ok c := by
  obtain ⟨c, s₁, hload, -⟩ := Action.bind_eq_ok.1 hupdate
  exact ⟨c, contents_of_load hload⟩

/-- A successful removal saves the collection without the key and tells whether there was one. -/
theorem save_of_remove
    {found : Bool}
    (hload : v.contents s = .ok c)
    (hremove : v.remove name s = (.ok found, s')) :
    found = c.contains name ∧ v.save (c.remove name) s = (.ok (), s') := by
  obtain ⟨keys, s₁, hkeys, hremove⟩ := Action.bind_eq_ok.1 hremove
  obtain ⟨hcontents, rfl⟩ := load_eq_ok.1 hkeys
  cases hload.symm.trans hcontents
  obtain ⟨_, s₂, hsave, hremove⟩ := Action.bind_eq_ok.1 hremove
  obtain ⟨rfl, rfl⟩ := Action.pure_eq_ok.1 hremove
  exact ⟨rfl, hsave⟩

/-- A successful choice of the default saves the collection with that default. -/
theorem save_of_setDefault
    (hload : v.contents s = .ok c)
    (hset : v.setDefault name s = (.ok (), s')) :
    ∃ c', c.setDefault? name = some c' ∧ v.save c' s = (.ok (), s') := by
  simp only [setDefault, Action.bind_apply, load_of_contents hload] at hset
  cases hchosen : c.setDefault? name with
  | none =>
      rw [hchosen] at hset
      exact absurd hset Action.fail_ne_ok
  | some c' =>
      rw [hchosen] at hset
      exact ⟨c', rfl, hset⟩

variable [LawfulFileSystem σ]

/-- A key store that holds a key has been read. -/
theorem readableAt_of_mem
    (hload : v.contents s = .ok c)
    (hname : name ∈ c.names) :
    ReadableAt v.path s := by
  refine readableAt_of_contents hload ?_
  by_contra habsent
  rw [contents, if_neg habsent] at hload
  cases hload
  cases hname

/-- After an addition the key store holds the collection with the key added. -/
theorem contents_of_add
    (hreadable : ReadableAt v.path s)
    (hload : v.contents s = .ok c)
    (hrange : c.InStoredRange)
    (hkey : key.createdAt.InStoredRange)
    (hadd : v.add key s = (.ok (), s')) :
    v.contents s' = .ok (c.add key).atMillisecond :=
  contents_of_save hreadable (Collection.inStoredRange_add hrange hkey) (save_of_add hload hadd)

/-- After an update the key store holds the collection with the key replaced. -/
theorem contents_of_update
    (hreadable : ReadableAt v.path s)
    (hload : v.contents s = .ok c)
    (hrange : c.InStoredRange)
    (hkey : key.createdAt.InStoredRange)
    (hupdate : v.update key s = (.ok (), s')) :
    ∃ c', updated c key = some c' ∧ v.contents s' = .ok c'.atMillisecond := by
  obtain ⟨c', hupdated, hsave⟩ := save_of_update hload hupdate
  have hrange' := Collection.inStoredRange_updated hrange hkey hupdated
  exact ⟨c', hupdated, contents_of_save hreadable hrange' hsave⟩

/-- After a choice of the default the key store holds the collection with that default. -/
theorem contents_of_setDefault
    (hreadable : ReadableAt v.path s)
    (hload : v.contents s = .ok c)
    (hrange : c.InStoredRange)
    (hset : v.setDefault name s = (.ok (), s')) :
    ∃ c', c.setDefault? name = some c' ∧ v.contents s' = .ok c'.atMillisecond := by
  obtain ⟨c', hchosen, hsave⟩ := save_of_setDefault hload hset
  have hrange' := Collection.inStoredRange_setDefault? hrange hchosen
  exact ⟨c', hchosen, contents_of_save hreadable hrange' hsave⟩

/-- A key is replaced where no call fails. -/
theorem update_of_steady
    (hsteady : v.Steady s)
    (hload : v.contents s = .ok c)
    (hrange : c.InStoredRange)
    (hkey : key.createdAt.InStoredRange) :
    ∃ s', v.update key s = (.ok (), s') := by
  obtain ⟨c', hupdated⟩ := c.exists_updated key
  obtain ⟨text, htext, -⟩ := v.ofText_toText? (Collection.inStoredRange_updated hrange hkey hupdated)
  obtain ⟨s', hsave, -⟩ := save_of_steady hsteady htext
  refine ⟨s', ?_⟩
  simp only [update, Action.bind_apply, load_of_contents hload, hupdated]
  exact hsave

end Vault
end Keyring
