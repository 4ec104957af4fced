import Keyring.Proofs.Action
import Keyring.Proofs.Store.Reload
import Keyring.Proofs.Store.Saving

/-!
# Loading what was saved

Saving and loading a collection gives it back with its creation times cut down to whole
milliseconds.  A collection that has been loaded from a text is written as a text that is loaded
again and written again unchanged, exactly if all its keys were made in the years from 0 to 9999:
the offset of a timestamp can carry it out of them.  Then an earlier year makes the saved text
unreadable, and a later one ends the program.
-/

namespace Keyring

open LawfulFileSystem (ReadableAt)

namespace Vault

variable {σ : Type} [FileSystem σ]

/-- A save ends the program exactly if some key was made after the year 9999. -/
theorem save_crashes_iff
    {v : Vault}
    {c : Collection}
    {s : σ} :
    (v.save c s).1 = .error .crashed ↔
      ∃ p ∈ c.keys, p.createdAt.date.year > Instant.greatestYear := by
  by_cases hlate : ∃ p ∈ c.keys, p.createdAt.date.year > Instant.greatestYear
  · have htext : toText? c = none := by rw [toText?_eq, if_pos hlate]
    rw [save_of_toText?_eq_none v s htext]
    exact iff_of_true rfl hlate
  · have htext : toText? c = some (Record.ofEntries c).text := by rw [toText?_eq, if_neg hlate]
    refine iff_of_false ?_ hlate
    rw [save, htext]
    simp only
    split
    · rintro ⟨⟩
    · rintro ⟨⟩

variable [LawfulFileSystem σ]

/-- What is kept of a collection in the stored range can be loaded after it has been saved. -/
theorem contents_of_save
    {v : Vault}
    {c : Collection}
    {s s' : σ}
    (hreadable : ReadableAt v.path s)
    (hrange : c.InStoredRange)
    (hsave : v.save c s = (.ok (), s')) :
    v.contents s' = .ok c.atMillisecond := by
  obtain ⟨text, htext, hload⟩ := v.ofText_toText? hrange
  rw [(read_of_save hreadable hsave htext).2, hload]

/-- Loading undoes saving: the keys come back in their order with their names, secrets, base URLs
and notes, the default is the same, and creation times are cut down to whole milliseconds, which
changes nothing for keys that were made by `Profile.create`. -/
theorem load_save
    {v : Vault}
    {c : Collection}
    {s : σ}
    (hsteady : v.Steady s)
    (hrange : c.InStoredRange) :
    ∃ s' c', v.save c s = (.ok (), s') ∧ v.load s' = (.ok c', s') ∧
      c'.keys = c.keys.map (fun p => { p with createdAt := p.createdAt.cutToMillisecond }) ∧
      c'.defaultName = c.defaultName ∧
      ∀ (i : Nat) name secret baseUrl note now,
        c.keys[i]? = some (Profile.create name secret baseUrl note now) →
          c'.keys[i]? = some (Profile.create name secret baseUrl note now) := by
  obtain ⟨text, htext, -⟩ := v.ofText_toText? hrange
  obtain ⟨s', hsave, -⟩ := save_of_steady hsteady htext
  have hcontents := contents_of_save hsteady.readable hrange hsave
  refine ⟨s', c.atMillisecond, hsave, ?_, rfl, rfl, ?_⟩
  · exact load_of_contents hcontents
  · intro i name secret baseUrl note now hkey
    have hkept := Profile.atMillisecond_create name secret baseUrl note now
    simp only [Collection.atMillisecond, List.getElem?_map, hkey, Option.map_some, hkept]

/-- A collection with control characters, quotes, line breaks and empty texts. -/
def awkward : Collection :=
  (Collection.empty.add
    (.create ⟨"prod", by decide, by decide⟩ "sk\x01\"\\\n" none (some "") ⟨1700000000123456789⟩)).add
    (.make ⟨"dev-2", by decide, by decide⟩ "" none (some "a\tb") ⟨1700000000123456789⟩)

theorem load_save_awkward :
    ∃ (s' : Memory) (c' : Collection),
      (⟨"keys.json"⟩ : Vault).save awkward Memory.empty = (.ok (), s') ∧
        (⟨"keys.json"⟩ : Vault).load s' = (.ok c', s') ∧
        c'.defaultName = some ⟨"prod", by decide, by decide⟩ := by
  have hsteady : (⟨"keys.json"⟩ : Vault).Steady Memory.empty := Memory.steady _ fun _ => rfl
  have hrange : awkward.InStoredRange := by decide +kernel
  obtain ⟨s', c', hsave, hload, -, hdefault, -⟩ := load_save hsteady hrange
  exact ⟨s', c', hsave, hload, hdefault.trans (by decide)⟩

/-- Whether the collection that the key store holds can be saved, loaded and saved again, both times
as the same text. -/
def Resaves (v : Vault) (s : σ) : Prop :=
  ∃ c s₁ text c₁ s₂,
    v.load s = (.ok c, s) ∧ v.save c s = (.ok (), s₁) ∧ FileSystem.read v.path s₁ = .ok text ∧
      v.load s₁ = (.ok c₁, s₁) ∧ v.save c₁ s₁ = (.ok (), s₂) ∧ FileSystem.read v.path s₂ = .ok text

/-- A collection in the stored range can be saved again and again. -/
theorem resaves_of_inStoredRange
    {v : Vault}
    {c : Collection}
    {s : σ}
    (hsteady : v.Steady s)
    (hload : v.contents s = .ok c)
    (hrange : c.InStoredRange) :
    v.Resaves s := by
  obtain ⟨text, htext, -⟩ := v.ofText_toText? hrange
  have htext' : toText? c.atMillisecond = some text := by rw [toText?_atMillisecond, htext]
  obtain ⟨s₁, hsave, hsteady₁⟩ := save_of_steady hsteady htext
  obtain ⟨s₂, hsave₂, -⟩ := save_of_steady hsteady₁ htext'
  have hcontents := contents_of_save hsteady.readable hrange hsave
  have hread := (read_of_save hsteady.readable hsave htext).1
  have hread₂ := (read_of_save hsteady₁.readable hsave₂ htext').1
  refine ⟨c, s₁, text, c.atMillisecond, s₂, ?_, hsave, hread, ?_, hsave₂, hread₂⟩
  · exact load_of_contents hload
  · exact load_of_contents hcontents

/-- A key that lies outside the stored range was made after the year 9999 or before the year 0. -/
theorem exists_late_or_early
    {c : Collection}
    (h : ¬ c.InStoredRange) :
    (∃ p ∈ c.keys, p.createdAt.date.year > Instant.greatestYear) ∨
      ∃ p ∈ c.keys, p.createdAt.date.year < 0 := by
  simp only [Collection.InStoredRange, not_forall] at h
  obtain ⟨p, hp, hrange⟩ := h
  rcases Int.lt_or_le p.createdAt.date.year 0 with hearly | hnonneg
  · exact .inr ⟨p, hp, hearly⟩
  · exact .inl ⟨p, hp, Int.not_le.1 fun hle => hrange ⟨hnonneg, hle⟩⟩

/-- After a save the key store cannot be loaded exactly if some key was made before the year 0. -/
theorem unreadable_after_save_iff
    {v : Vault}
    {c : Collection}
    {s s' : σ}
    (hreadable : ReadableAt v.path s)
    (hsave : v.save c s = (.ok (), s')) :
    (∃ fault, v.contents s' = .error fault) ↔ ∃ p ∈ c.keys, p.createdAt.date.year < 0 := by
  obtain ⟨text, htext, -⟩ := writePrivate_of_save hsave
  constructor
  · rintro ⟨fault, hfault⟩
    by_cases hrange : c.InStoredRange
    · rw [contents_of_save hreadable hrange hsave] at hfault
      cases hfault
    · rcases exists_late_or_early hrange with hlate | hearly
      · rw [toText?_eq, if_pos hlate] at htext
        cases htext
      · exact hearly
  · rintro ⟨p, hp, hyear⟩
    rw [(read_of_save hreadable hsave htext).2]
    exact ofText_toText?_of_neg v htext hp hyear

/-- A collection that can be saved again lies in the stored range. -/
theorem inStoredRange_of_resaves
    {v : Vault}
    {c : Collection}
    {s : σ}
    (hreadable : ReadableAt v.path s)
    (hload : v.contents s = .ok c)
    (h : v.Resaves s) :
    c.InStoredRange := by
  obtain ⟨c', s₁, text, c₁, s₂, hloaded, hsave, -, hloaded₁, -⟩ := h
  have hsame : c' = c := Except.ok.inj ((contents_of_load hloaded).symm.trans hload)
  subst hsame
  by_contra hrange
  -- A late key would have ended the first save, an early one the second load.
  rcases exists_late_or_early hrange with hlate | hearly
  · have hcrash := (save_crashes_iff (v := v) (s := s)).2 hlate
    rw [hsave] at hcrash
    cases hcrash
  · obtain ⟨fault, hfault⟩ := (unreadable_after_save_iff hreadable hsave).2 hearly
    rw [contents_of_load hloaded₁] at hfault
    cases hfault

/-- A key store that can be loaded can be saved as a text that is loaded and saved again unchanged
exactly if all its keys were made in the years from 0 to 9999.  Otherwise saving it ends the program,
which is the case if some key was made later, or leaves a key store that cannot be loaded, which is
the case if some key was made earlier. -/
theorem resaves_iff_inStoredRange
    {v : Vault}
    {c : Collection}
    {s : σ}
    (hsteady : v.Steady s)
    (hload : v.load s = (.ok c, s)) :
    (v.Resaves s ↔ c.InStoredRange) ∧
      ((v.save c s).1 = .error .crashed ↔
        ∃ p ∈ c.keys, p.createdAt.date.year > Instant.greatestYear) ∧
      ∀ s', v.save c s = (.ok (), s') →
        ((∃ fault, v.contents s' = .error fault) ↔ ∃ p ∈ c.keys, p.createdAt.date.year < 0) := by
  have hcontents : v.contents s = .ok c := contents_of_load hload
  refine ⟨?_, save_crashes_iff, fun s' => unreadable_after_save_iff hsteady.readable⟩
  exact ⟨inStoredRange_of_resaves hsteady.readable hcontents,
    resaves_of_inStoredRange hsteady hcontents⟩

/-- A key store in memory with one key, its creation time, and the text of the default. -/
def storeOfOne (createdAt default : String) : Memory :=
  Memory.empty.place "keys.json" (some
    ("\x7b\"keys\":[\x7b\"name\":\" a \",\"key\":\"k\",\"note\":null,\"createdAt\":\"" ++ createdAt ++
      "\"\x7d],\"default\":\"" ++ default ++ "\"\x7d"))

theorem resaves_storeOfOne :
    (⟨"keys.json"⟩ : Vault).Resaves (storeOfOne "2024-02-29T23:30:00.123456+05:30" " ") := by
  let v : Vault := ⟨"keys.json"⟩
  let m := storeOfOne "2024-02-29T23:30:00.123456+05:30" " "
  have hload : (v.contents m).toOption.any (fun c => decide c.InStoredRange) = true := by
    decide +kernel
  obtain ⟨c, hcontents, hrange⟩ := Action.exists_of_any_toOption hload
  have hsteady : v.Steady m := Memory.steady v fun _ => rfl
  have hloaded := load_of_contents hcontents
  exact (resaves_iff_inStoredRange hsteady hloaded).1.2 (of_decide_eq_true hrange)

theorem unreadable_after_saving_storeOfOne :
    ∃ c s' fault,
      (⟨"keys.json"⟩ : Vault).load (storeOfOne "0000-01-01T00:00:00+01:00" " ") =
          (.ok c, storeOfOne "0000-01-01T00:00:00+01:00" " ") ∧
        (⟨"keys.json"⟩ : Vault).save c (storeOfOne "0000-01-01T00:00:00+01:00" " ") = (.ok (), s') ∧
        (⟨"keys.json"⟩ : Vault).contents s' = .error fault := by
  let v : Vault := ⟨"keys.json"⟩
  let m := storeOfOne "0000-01-01T00:00:00+01:00" " "
  have hload : (v.contents m).toOption.any (fun c =>
      c.keys.any (fun p => decide (p.createdAt.date.year < 0)) && (toText? c).isSome) = true := by
    decide +kernel
  obtain ⟨c, hcontents, hfacts⟩ := Action.exists_of_any_toOption hload
  rw [Bool.and_eq_true, List.any_eq_true] at hfacts
  obtain ⟨⟨p, hp, hyear⟩, htext⟩ := hfacts
  obtain ⟨text, htext⟩ := Option.isSome_iff_exists.1 htext
  have hsteady : v.Steady m := Memory.steady v fun _ => rfl
  obtain ⟨s', hsave, -⟩ := save_of_steady hsteady htext
  obtain ⟨fault, hfault⟩ :=
    (unreadable_after_save_iff hsteady.readable hsave).2 ⟨p, hp, of_decide_eq_true hyear⟩
  refine ⟨c, s', fault, ?_, hsave, hfault⟩
  exact load_of_contents hcontents

end Vault
end Keyring
