import Keyring.Proofs.Store.Change

/-!
# What becomes of the default

Replacing a key removes it and adds it again.  On the way a default may be cleared and a first key
may become the default, so the default is kept except in one case: replacing the only key of a store
without a default makes that key the default.
-/

namespace Keyring

namespace Collection

/-- Nothing is left after a stored key has been removed exactly if it was the only one. -/
theorem isEmpty_remove_iff
    {c : Collection}
    {name : KeyName}
    (h : name ∈ c.names) :
    (c.remove name).isEmpty = true ↔ c.names = [name] := by
  have hall : (c.remove name).isEmpty = true ↔ ∀ n ∈ c.names, n = name := by
    simp [isEmpty, remove, names, List.filter_eq_nil_iff]
  rw [hall]
  constructor
  · intro heq
    -- The names are all the same and yet all different, so there is only one.
    have hreplicate := List.eq_replicate_of_mem heq
    have hnodup : c.names.Nodup := c.names_nodup
    rw [hreplicate, List.nodup_replicate] at hnodup
    have hpos : 0 < c.names.length := List.length_pos_of_mem h
    have hone : c.names.length = 1 := by omega
    rw [hreplicate, hone]
    rfl
  · intro heq n hn
    rw [heq, List.mem_singleton] at hn
    exact hn

/-- The only key is the default if any key is. -/
theorem defaultName_eq_none_of_only
    {c : Collection}
    {name : KeyName}
    (honly : c.names = [name])
    (hdefault : c.isDefault name = false) :
    c.defaultName = none := by
  cases hname : c.defaultName with
  | none => rfl
  | some n =>
      have hn : n ∈ c.names := c.default_mem n hname
      rw [honly, List.mem_singleton] at hn
      simp [isDefault, hname, hn] at hdefault

/-- Replacing a stored key keeps the default unless it is the only key and no default is set. -/
theorem defaultAfterUpdate_eq_iff
    {c : Collection}
    {name : KeyName}
    (h : name ∈ c.names) :
    c.defaultAfterUpdate name = c.defaultName ↔ ¬ (c.defaultName = none ∧ c.names = [name]) := by
  rw [← isEmpty_remove_iff h, defaultAfterUpdate]
  cases hdefault : c.isDefault name with
  | true =>
      have hname : c.defaultName = some name := by simpa [isDefault] using hdefault
      simp [hname]
  | false =>
      rw [Bool.false_or]
      by_cases hempty : (c.remove name).isEmpty = true
      · have hnone := defaultName_eq_none_of_only ((isEmpty_remove_iff h).1 hempty) hdefault
        simp [hempty, hnone]
      · simp [hempty]

/-- A replaced key is the default afterwards exactly if it was before or is the only one. -/
theorem defaultAfterUpdate_eq_some_iff
    {c : Collection}
    {name : KeyName}
    (h : name ∈ c.names) :
    c.defaultAfterUpdate name = some name ↔ c.isDefault name = true ∨ c.names = [name] := by
  rw [← isEmpty_remove_iff h, defaultAfterUpdate]
  split
  · next hcond => simpa using hcond
  · next hcond =>
      rw [Bool.or_eq_true] at hcond
      refine iff_of_false ?_ hcond
      intro hname
      exact hcond (.inl (by simp [isDefault, hname]))

end Collection

namespace Vault

variable {σ : Type} [FileSystem σ] [LawfulFileSystem σ]

/-- Replacing a stored key keeps the default unless that key is the only one and no default is set; in
that case the key becomes the default. -/
theorem defaultName_update
    {v : Vault}
    {c : Collection}
    {key : Profile}
    {s s' : σ}
    (hload : v.load s = (.ok c, s))
    (hrange : c.InStoredRange)
    (hstored : key.name ∈ c.names)
    (hkey : key.createdAt.InStoredRange)
    (hupdate : v.update key s = (.ok (), s')) :
    ∃ c', v.load s' = (.ok c', s') ∧
      (c'.defaultName = c.defaultName ↔ ¬ (c.defaultName = none ∧ c.names = [key.name])) ∧
      (c.defaultName = none ∧ c.names = [key.name] → c'.defaultName = some key.name) := by
  have hcontents := contents_of_load hload
  have hreadable := readableAt_of_mem hcontents hstored
  obtain ⟨c', hupdated, hcontents'⟩ := contents_of_update hreadable hcontents hrange hkey hupdate
  have hdefault : c'.atMillisecond.defaultName = c.defaultAfterUpdate key.name :=
    (Collection.updated_eq_some hupdated).2
  refine ⟨c'.atMillisecond, load_of_contents hcontents', ?_, ?_⟩
  · rw [hdefault]
    exact Collection.defaultAfterUpdate_eq_iff hstored
  · rintro ⟨-, honly⟩
    rw [hdefault]
    exact (Collection.defaultAfterUpdate_eq_some_iff hstored).2 (.inr honly)

/-- A key to put in the place of the one in `storeOfOne`. -/
def replacement : Profile :=
  .create ⟨"a", by decide, by decide⟩ "new" none none ⟨0⟩

theorem defaultName_update_designated :
    ∃ (s' : Memory) (c' : Collection),
      (⟨"keys.json"⟩ : Vault).update replacement (storeOfOne "2024-01-01T00:00:00Z" "a") =
          (.ok (), s') ∧
        (⟨"keys.json"⟩ : Vault).load s' = (.ok c', s') ∧ c'.defaultName = some replacement.name := by
  let v : Vault := ⟨"keys.json"⟩
  let m := storeOfOne "2024-01-01T00:00:00Z" "a"
  have hfacts : (v.contents m).toOption.any (fun c =>
      decide c.InStoredRange && decide (c.names = [replacement.name]) &&
        decide (c.defaultName = some replacement.name)) = true := by
    decide +kernel
  obtain ⟨c, hcontents, htest⟩ := Action.exists_of_any_toOption hfacts
  simp only [Bool.and_eq_true, decide_eq_true_eq] at htest
  obtain ⟨⟨hrange, hnames⟩, hdefault⟩ := htest
  have hloaded := load_of_contents hcontents
  have hstored : replacement.name ∈ c.names := by
    rw [hnames]
    exact List.mem_singleton_self _
  have hkey : replacement.createdAt.InStoredRange := by decide +kernel
  obtain ⟨s', hupdate⟩ :=
    update_of_steady (Memory.steady v fun _ => rfl) hcontents hrange hkey
  obtain ⟨c', hload', hkept, -⟩ := defaultName_update hloaded hrange hstored hkey hupdate
  refine ⟨s', c', hupdate, hload', ?_⟩
  rw [hkept.2 (by simp [hdefault]), hdefault]

theorem defaultName_update_undesignated :
    ∃ (c : Collection) (s' : Memory) (c' : Collection),
      (⟨"keys.json"⟩ : Vault).load (storeOfOne "2024-01-01T00:00:00Z" " ") =
          (.ok c, storeOfOne "2024-01-01T00:00:00Z" " ") ∧
        replacement.name ∈ c.names ∧
        (⟨"keys.json"⟩ : Vault).update replacement (storeOfOne "2024-01-01T00:00:00Z" " ") =
          (.ok (), s') ∧
        (⟨"keys.json"⟩ : Vault).load s' = (.ok c', s') ∧ c'.defaultName ≠ c.defaultName := by
  let v : Vault := ⟨"keys.json"⟩
  let m := storeOfOne "2024-01-01T00:00:00Z" " "
  have hfacts : (v.contents m).toOption.any (fun c =>
      decide c.InStoredRange && decide (c.names = [replacement.name]) &&
        decide (c.defaultName = none)) = true := by
    decide +kernel
  obtain ⟨c, hcontents, htest⟩ := Action.exists_of_any_toOption hfacts
  simp only [Bool.and_eq_true, decide_eq_true_eq] at htest
  obtain ⟨⟨hrange, hnames⟩, hdefault⟩ := htest
  have hstored : replacement.name ∈ c.names := by
    rw [hnames]
    exact List.mem_singleton_self _
  have hkey : replacement.createdAt.InStoredRange := by decide +kernel
  have hsteady : v.Steady m := Memory.steady v fun _ => rfl
  obtain ⟨s', hupdate⟩ := update_of_steady hsteady hcontents hrange hkey
  obtain ⟨c', hupdated, hcontents'⟩ :=
    contents_of_update hsteady.readable hcontents hrange hkey hupdate
  have hafter : c'.atMillisecond.defaultName = c.defaultAfterUpdate replacement.name :=
    (Collection.updated_eq_some hupdated).2
  refine ⟨c, s', c'.atMillisecond, load_of_contents hcontents, hstored, hupdate,
    load_of_contents hcontents', ?_⟩
  rw [hafter, Ne, Collection.defaultAfterUpdate_eq_iff hstored, not_not]
  exact ⟨hdefault, hnames⟩

end Vault
end Keyring
