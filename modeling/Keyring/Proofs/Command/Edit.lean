import Keyring.Proofs.Command.Reports

/-!
# What an edit changes

An edit that succeeds changes the fields it is given, of the key it names, and nothing else: the other
fields of that key stay, all other keys stay in their order, and the edited key comes last.  The report
names the fields that were given.
-/

namespace Keyring

/-- Whether a list holds the names of the fields that an edit gives, in the order in which they are
reported. -/
structure KeyEdit.Lists (change : KeyEdit) (fields : List String) : Prop where
  ordered : fields.Sublist ["baseUrl", "note", "key"]
  baseUrl : "baseUrl" ∈ fields ↔ change.baseUrl.isSome = true
  note : "note" ∈ fields ↔ change.note.isSome = true
  secret : "key" ∈ fields ↔ change.secret.isSome = true

theorem KeyEdit.lists_changed
    (change : KeyEdit) :
    change.Lists change.changed := by
  obtain ⟨name, secret, baseUrl, note⟩ := change
  constructor <;> cases secret <;> cases baseUrl <;> cases note <;> simp [changed]

namespace Context

variable {c : Context} {w w' : World} {before : Collection} {change : KeyEdit} {report : Report}

/-- An edit that succeeds changes exactly the given fields of exactly one key. -/
theorem edit_changes_given
    (hload : c.vault.load w = (.ok before, w))
    (hrange : before.InStoredRange)
    (h : c.execute (.edit change) w = (.ok report, w')) :
    ∃ name old key after fields,
      Text.trimmed change.name = name.value ∧
      before.find? name = some old ∧
      change.Makes w old key ∧
      c.vault.load w' = (.ok after, w') ∧
      after.keys = before.others name ++ [key.atMillisecond] ∧
      (∀ n, n ∈ after.names ↔ n ∈ before.names) ∧
      (∀ n, n ≠ name → after.find? n = (before.find? n).map Profile.atMillisecond) ∧
      report.field? ["changed"] = some (.array (fields.map .string)) ∧
      change.Lists fields := by
  obtain ⟨name, found, old, key, w₁, w₂, after, data, hname, hcontents, ⟨hold, holdName⟩, hmakes, hfiles,
    hupdate, rfl, hafter, -, rfl⟩ := edit_eq_ok h
  have hfound : found = before := Except.ok.inj (hcontents.symm.trans (Vault.contents_of_load hload))
  subst hfound
  have hkeyName : key.name = name := hmakes.name.trans holdName
  have hmem : name ∈ found.names := Collection.mem_names_of_find? hold
  have hkey : key.createdAt.InStoredRange := by
    rw [hmakes.createdAt]
    exact hrange old (List.mem_of_find?_eq_some hold)
  have hcontents₁ : c.vault.contents w₁ = .ok found := by rw [hfiles.contents, hcontents]
  -- The key store is loaded three times, and holds the same each time but for what the edit stores.
  obtain ⟨again, hcontents₂⟩ := Vault.exists_contents_of_update hupdate
  cases Vault.eq_of_contents_elapse hcontents₁ hcontents₂
  obtain ⟨stored, hstored, hcontents'⟩ := Vault.contents_of_update
    (Vault.readableAt_of_mem hcontents₂ hmem) hcontents₂ hrange hkey hupdate
  cases Vault.eq_of_contents_elapse hcontents' hafter
  have hkeys : stored.atMillisecond.keys = found.others name ++ [key.atMillisecond] := by
    rw [Collection.keys_of_updated hstored, hkeyName]
  refine ⟨name, old, key, stored.atMillisecond, change.changed, KeyName.read_eq_ok_iff.1 hname, hold, hmakes,
    Vault.load_of_contents hafter, hkeys, fun n => ?_, fun n => ?_, rfl, change.lists_changed⟩
  · rw [Collection.mem_names_of_others hkeys hkeyName, or_iff_left_iff_imp]
    rintro rfl
    exact hmem
  · exact Collection.find?_of_others hkeys (by simpa using hkeyName)

/-- A request to replace the secret of the key in `worldOfOne` and to clear its note. -/
def replacing : KeyEdit :=
  ⟨" a ", some " fresh", none, some "-\n"⟩

theorem edit_changes_given_replacing :
    ∃ before report w' after key, ∃ fields : List String,
      inSeventies.vault.load (worldOfOne " ") = (.ok before, worldOfOne " ") ∧ before.InStoredRange ∧
      inSeventies.execute (.edit replacing) (worldOfOne " ") = (.ok report, w') ∧
      inSeventies.vault.load w' = (.ok after, w') ∧ after.keys.getLast? = some key ∧
      key.secret = "fresh" ∧ key.note = none ∧
      report.field? ["changed"] = some (.array (fields.map .string)) ∧
      "note" ∈ fields ∧ "baseUrl" ∉ fields := by
  obtain ⟨before, hcontents, hrange, -⟩ := contents_worldOfOne
  have hload := Vault.load_of_contents hcontents
  have hsucceeds : (inSeventies.execute (.edit replacing) (worldOfOne " ")).1.toOption.any
      (fun _ => true) = true := by
    decide +kernel
  obtain ⟨report, w', hreport, -⟩ := Action.exists_of_any_fst hsucceeds
  obtain ⟨name, old, key, after, fields, -, -, hmakes, hafter, hkeys, -, -, htold, hlists⟩ :=
    edit_changes_given hload hrange hreport
  have hread : (readSecret " fresh" (worldOfOne " ")).1.toOption = some "fresh" := by decide +kernel
  have hsecret : some "fresh" = some key.secret := by
    rw [← hread, hmakes.secretGiven " fresh" rfl]
    rfl
  refine ⟨before, report, w', after, key.atMillisecond, fields, hload, hrange, hreport, hafter, ?_,
    (Option.some.inj hsecret).symm, (hmakes.noteGiven "-\n" rfl).trans (by decide +kernel), htold,
    hlists.note.2 rfl, fun hurl => absurd (hlists.baseUrl.1 hurl) (by decide)⟩
  rw [hkeys, List.getLast?_concat]

end Context
end Keyring
