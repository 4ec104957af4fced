import Keyring.Proofs.Command.Confirmation
import Keyring.Proofs.Command.Steps
import Keyring.Proofs.Store.Default
import Keyring.Proofs.Store.Others

/-!
# Reports tell what is stored

What the report on a successful change says about the key store is compared with what the key store
held before and holds after the command.  Everything agrees but one thing: when the only key of a
store without a default is overwritten it becomes the default, and the report says that it is not.
-/

namespace Keyring

open LawfulFileSystem (Readable ReadableAt)

/-- The value in the data of a report to which member names lead. -/
def Report.field?
    (r : Report)
    (path : List String) :
    Option Json :=
  path.foldl (fun v name => v.bind (Json.member? name)) (some r.data)

/-- A description tells the name of the key and whether it is the default. -/
theorem Profile.members_description?
    {p : Profile}
    {isDefault : Bool}
    {data : Json}
    (h : p.description? isDefault = some data) :
    Json.member? "name" data = some (.string p.name.value) ∧
      Json.member? "isDefault" data = some (.bool isDefault) := by
  rw [description?, Option.map_eq_some_iff] at h
  obtain ⟨createdAt, -, rfl⟩ := h
  exact ⟨rfl, rfl⟩

namespace Collection

/-- The default has the name that designates it. -/
theorem any_default?
    (c : Collection)
    (name : KeyName) :
    (c.default?.any fun p => p.name == name) = c.isDefault name := by
  cases hdefault : c.defaultName with
  | none => simp [default?, isDefault, hdefault]
  | some n =>
      have hfind : (c.find? n).isSome = true := contains_iff.2 (c.default_mem n hdefault)
      obtain ⟨q, hq⟩ := Option.isSome_iff_exists.1 hfind
      have hqname : q.name = n := by
        have hfound := List.find?_some hq
        simpa using hfound
      simp [default?, isDefault, hdefault, hq, hqname]

end Collection

namespace Context

variable {c : Context} {w w' : World} {report : Report} {before : Collection}

/-- The default after a key has been stored. -/
def defaultAfterStore
    (before : Collection)
    (key : Profile) :
    Option KeyName :=
  if before.contains key.name then before.defaultAfterUpdate key.name
  else before.defaultAfterAdd key

/-- After a key has been stored the key store holds it behind all others. -/
theorem contents_of_store
    {key : Profile}
    (hreadable : ReadableAt c.vault.path w)
    (hload : c.vault.contents w = .ok before)
    (hrange : before.InStoredRange)
    (hkey : key.createdAt.InStoredRange)
    (hstore : c.store before key w = (.ok (), w')) :
    ∃ after, c.vault.contents w' = .ok after ∧
      after.keys = before.others key.name ++ [key.atMillisecond] ∧
      after.defaultName = defaultAfterStore before key := by
  unfold store at hstore
  unfold defaultAfterStore
  split at hstore
  · next hstored =>
      rw [if_pos hstored]
      obtain ⟨c', hupdated, hafter⟩ := Vault.contents_of_update hreadable hload hrange hkey hstore
      exact ⟨c'.atMillisecond, hafter, Collection.keys_of_updated hupdated,
        (Collection.updated_eq_some hupdated).2⟩
  · next hstored =>
      rw [if_neg hstored]
      rw [Collection.contains_iff] at hstored
      exact ⟨_, Vault.contents_of_add hreadable hload hrange hkey hstore, Collection.keys_of_add hstored,
        rfl⟩

/-- A first key becomes the default. -/
theorem defaultAfterStore_of_isEmpty
    {key : Profile}
    (h : before.isEmpty = true) :
    defaultAfterStore before key = some key.name := by
  have hnone : before.contains key.name = false := by
    refine Collection.contains_eq_false_iff.2 fun hmem => ?_
    rw [Collection.names, List.isEmpty_iff.1 h] at hmem
    cases hmem
  rw [defaultAfterStore, hnone, if_neg Bool.false_ne_true, Collection.defaultAfterAdd, if_pos h]

/-- What an addition reports on the default is true unless it overwrites the only key of a store
without a default. -/
theorem isDefault_iff_defaultAfterStore
    (key : Profile) :
    ((before.isEmpty || before.isDefault key.name) = true ↔
        defaultAfterStore before key = some key.name) ↔
      ¬ (before.defaultName = none ∧ before.names = [key.name]) := by
  -- The cases are a first key, a key that replaces one, and a further key.
  cases hempty : before.isEmpty with
  | true =>
      have hnames : before.names = [] := by
        rw [Collection.names, List.isEmpty_iff.1 hempty]
        rfl
      rw [defaultAfterStore_of_isEmpty hempty, hnames]
      simp
  | false =>
      rw [Bool.false_or]
      by_cases hstored : before.contains key.name = true
      · have hmem := Collection.contains_iff.1 hstored
        rw [defaultAfterStore, if_pos hstored, Collection.defaultAfterUpdate_eq_some_iff hmem]
        cases hdefault : before.isDefault key.name with
        | true =>
            have hname : before.defaultName = some key.name := by
              simpa [Collection.isDefault] using hdefault
            simp [hname]
        | false =>
            constructor
            · rintro hiff ⟨-, honly⟩
              exact absurd (hiff.2 (.inr honly)) Bool.false_ne_true
            · intro hnot
              refine iff_of_false Bool.false_ne_true ?_
              rintro (htrue | honly)
              · exact absurd htrue Bool.false_ne_true
              · exact hnot ⟨Collection.defaultName_eq_none_of_only honly hdefault, honly⟩
      · have hother : before.names ≠ [key.name] := by
          intro honly
          rw [Collection.contains_iff, honly] at hstored
          exact hstored (List.mem_singleton_self _)
        rw [defaultAfterStore, if_neg hstored, Collection.defaultAfterAdd, hempty]
        simp [Collection.isDefault, hother]

/-- The report on an addition, compared with the key store before and after. -/
theorem add_report
    {new : NewKey}
    (hreadable : Readable w)
    (hload : c.vault.contents w = .ok before)
    (hrange : before.InStoredRange)
    (hnow : c.now.InStoredRange)
    (h : c.add new w = (.ok report, w')) :
    ∃ name after isDefault replaced,
      KeyName.read new.name = .ok name ∧ c.vault.contents w' = .ok after ∧
      report.field? ["key", "name"] = some (.string name.value) ∧
      report.field? ["key", "isDefault"] = some (.bool isDefault) ∧
      ((isDefault = true ↔ after.defaultName = some name) ↔
        ¬ (before.defaultName = none ∧ before.names = [name])) ∧
      (NewKey.firstSentence <:+: report.text.toList → after.defaultName = some name) ∧
      report.field? ["replaced"] = some (.bool replaced) ∧
      (replaced = true ↔ name ∈ before.names) := by
  obtain ⟨name, baseUrl, found, secret, w₁, data, hname, -, hcontents, -, hsecret, hstore, hdata, rfl⟩ :=
    add_eq_ok h
  have hfiles := sameFiles_secretFrom hsecret
  have hfound : found = before := Except.ok.inj (hcontents.symm.trans hload)
  subst hfound
  have hreadable₁ := hfiles.readable hreadable
  have hlater := LawfulFileSystem.readableAt (LawfulFileSystem.readable_elapse hreadable₁) c.vault.path
  have hload₁ : c.vault.contents (FileSystem.elapse w₁) = .ok found := by
    rw [Vault.contents_elapse (LawfulFileSystem.readableAt hreadable₁ _) hlater, hfiles.contents, hload]
  have hkey : (c.newKey new name secret baseUrl).createdAt.InStoredRange := hnow.cutToMillisecond
  obtain ⟨after, hafter, -, hdefault⟩ := contents_of_store hlater hload₁ hrange hkey hstore
  obtain ⟨hmemberName, hmemberDefault⟩ := Profile.members_description? hdata
  refine ⟨name, after, _, _, hname, hafter, hmemberName, hmemberDefault, ?_, ?_, rfl,
    Collection.contains_iff⟩
  · rw [hdefault]
    exact isDefault_iff_defaultAfterStore (c.newKey new name secret baseUrl)
  · intro hsentence
    rw [hdefault]
    exact defaultAfterStore_of_isEmpty (NewKey.isEmpty_of_firstSentence hsentence)

/-- The report on an edit, compared with the key store afterwards. -/
theorem edit_report
    {change : KeyEdit}
    (h : c.edit change w = (.ok report, w')) :
    ∃ name after isDefault,
      KeyName.read change.name = .ok name ∧ c.vault.contents w' = .ok after ∧
      report.field? ["key", "name"] = some (.string name.value) ∧
      report.field? ["key", "isDefault"] = some (.bool isDefault) ∧
      (isDefault = true ↔ after.defaultName = some name) := by
  obtain ⟨name, _, old, key, _, _, after, data, hname, -, ⟨-, holdName⟩, hmakes, -, -, -, hafter, hdata,
    rfl⟩ := edit_eq_ok h
  obtain ⟨hmemberName, hmemberDefault⟩ := Profile.members_description? hdata
  rw [hmakes.name, holdName] at hmemberName
  rw [Collection.any_default?] at hmemberDefault
  exact ⟨name, after, _, hname, hafter, hmemberName, hmemberDefault, by simp [Collection.isDefault]⟩

/-- The report on a removal, compared with the key store before. -/
theorem remove_report
    {raw : String}
    {confirmed : Bool}
    (hload : c.vault.contents w = .ok before)
    (h : c.remove raw confirmed w = (.ok report, w')) :
    ∃ name, KeyName.read raw = .ok name ∧
      ((report.field? ["removed"] = some (.bool false) ∧ report.field? ["wasDefault"] = none) ∨
        ∃ wasDefault, report.field? ["removed"] = some (.bool true) ∧
          report.field? ["wasDefault"] = some (.bool wasDefault) ∧
          (wasDefault = true ↔ before.defaultName = some name)) := by
  obtain ⟨name, found, hname, hcontents, -, hreport⟩ := remove_eq_ok h
  have hfound : found = before := Except.ok.inj (hcontents.symm.trans hload)
  subst hfound
  refine ⟨name, hname, ?_⟩
  rcases hreport with rfl | rfl
  · exact .inl ⟨rfl, rfl⟩
  · exact .inr ⟨found.isDefault name, rfl, rfl, by simp [Collection.isDefault]⟩

/-- The report on a choice of the default, compared with the key store afterwards. -/
theorem use_report
    {raw : String}
    (hreadable : Readable w)
    (hload : c.vault.contents w = .ok before)
    (hrange : before.InStoredRange)
    (h : c.use raw w = (.ok report, w')) :
    ∃ name after, KeyName.read raw = .ok name ∧ c.vault.contents w' = .ok after ∧
      report.field? ["default"] = some (.string name.value) ∧ after.defaultName = some name := by
  obtain ⟨name, hname, hset, rfl⟩ := use_eq_ok h
  obtain ⟨c', hchosen, hafter⟩ :=
    Vault.contents_of_setDefault (LawfulFileSystem.readableAt hreadable _) hload hrange hset
  exact ⟨name, c'.atMillisecond, hname, hafter, rfl, (Collection.setDefault?_eq_some hchosen).2⟩

/-- The reports on successful changes, compared with the key store.

What an edit reports on the default is true of the key store afterwards.  What an addition reports is
true unless it overwrites the only key of a store without a default; the sentence on the first key is
always true, and so is whether a key was replaced.  A removal reports whether the key was the default
before, and a choice of the default reports the default afterwards. -/
theorem reports_of_success
    (hreadable : Readable w)
    (hload : c.vault.load w = (.ok before, w))
    (hrange : before.InStoredRange)
    (hnow : c.now.InStoredRange) :
    (∀ new report w', c.execute (.add new) w = (.ok report, w') →
      ∃ name after isDefault replaced,
        KeyName.read new.name = .ok name ∧ c.vault.load w' = (.ok after, w') ∧
        report.field? ["key", "name"] = some (.string name.value) ∧
        report.field? ["key", "isDefault"] = some (.bool isDefault) ∧
        ((isDefault = true ↔ after.defaultName = some name) ↔
          ¬ (before.defaultName = none ∧ before.names = [name])) ∧
        (NewKey.firstSentence <:+: report.text.toList → after.defaultName = some name) ∧
        report.field? ["replaced"] = some (.bool replaced) ∧
        (replaced = true ↔ name ∈ before.names)) ∧
    (∀ change report w', c.execute (.edit change) w = (.ok report, w') →
      ∃ name after isDefault,
        KeyName.read change.name = .ok name ∧ c.vault.load w' = (.ok after, w') ∧
        report.field? ["key", "name"] = some (.string name.value) ∧
        report.field? ["key", "isDefault"] = some (.bool isDefault) ∧
        (isDefault = true ↔ after.defaultName = some name)) ∧
    (∀ raw confirmed report w', c.execute (.remove raw confirmed) w = (.ok report, w') →
      ∃ name, KeyName.read raw = .ok name ∧
        ((report.field? ["removed"] = some (.bool false) ∧
            report.field? ["wasDefault"] = none) ∨
          ∃ wasDefault, report.field? ["removed"] = some (.bool true) ∧
            report.field? ["wasDefault"] = some (.bool wasDefault) ∧
            (wasDefault = true ↔ before.defaultName = some name))) ∧
    (∀ raw report w', c.execute (.use raw) w = (.ok report, w') →
      ∃ name after,
        KeyName.read raw = .ok name ∧ c.vault.load w' = (.ok after, w') ∧
        report.field? ["default"] = some (.string name.value) ∧
        after.defaultName = some name) := by
  have hcontents := Vault.contents_of_load hload
  refine ⟨?_, ?_, ?_, ?_⟩
  · intro new report w' h
    obtain ⟨name, after, isDefault, replaced, hname, hafter, htold⟩ :=
      add_report hreadable hcontents hrange hnow h
    exact ⟨name, after, isDefault, replaced, hname, Vault.load_of_contents hafter, htold⟩
  · intro change report w' h
    obtain ⟨name, after, isDefault, hname, hafter, htold⟩ := edit_report h
    exact ⟨name, after, isDefault, hname, Vault.load_of_contents hafter, htold⟩
  · intro raw confirmed report w' h
    exact remove_report hcontents h
  · intro raw report w' h
    obtain ⟨name, after, hname, hafter, htold⟩ := use_report hreadable hcontents hrange h
    exact ⟨name, after, hname, Vault.load_of_contents hafter, htold⟩

/-- A context in 1970 whose key store is the one of `Vault.storeOfOne`. -/
def inSeventies : Context :=
  .standard .standard ⟨"keys.json", "last_used"⟩ ⟨0⟩ fun _ => ""

/-- A world with one key, which is the default if the text names it. -/
def worldOfOne (default : String) : World :=
  .fresh (some (Vault.storeOfOne "2024-01-01T00:00:00Z" default)) .bare []

/-- A request to overwrite the key in `worldOfOne`. -/
def overwriting : NewKey :=
  ⟨"a", some "n", none, none, true⟩

/-- The key store of `worldOfOne` holds that key in the stored range. -/
theorem contents_worldOfOne :
    ∃ before, inSeventies.vault.contents (worldOfOne " ") = .ok before ∧ before.InStoredRange ∧
      before.defaultName = none ∧ before.names = [Vault.replacement.name] := by
  have hfacts : (inSeventies.vault.contents (worldOfOne " ")).toOption.any (fun c =>
      decide c.InStoredRange && decide (c.defaultName = none) &&
        decide (c.names = [Vault.replacement.name])) = true := by
    decide +kernel
  obtain ⟨before, hcontents, htest⟩ := Action.exists_of_any_toOption hfacts
  simp only [Bool.and_eq_true, decide_eq_true_eq] at htest
  exact ⟨before, hcontents, htest.1.1, htest.1.2, htest.2⟩

/-- No read call fails in `worldOfOne`. -/
theorem readable_worldOfOne (default : String) :
    Readable (worldOfOne default) := by
  rintro m hm
  cases hm
  exact fun _ _ => rfl

theorem reports_of_success_use :
    ∃ report w' after,
      inSeventies.execute (.use "a") (worldOfOne " ") = (.ok report, w') ∧
        inSeventies.vault.load w' = (.ok after, w') ∧
        report.field? ["default"] = some (.string "a") ∧
        after.defaultName = some Vault.replacement.name := by
  obtain ⟨before, hcontents, hrange, -⟩ := contents_worldOfOne
  have hnow : inSeventies.now.InStoredRange := by decide +kernel
  obtain ⟨-, -, -, huse⟩ := reports_of_success (readable_worldOfOne " ")
    (Vault.load_of_contents hcontents) hrange hnow
  have hsucceeds : (inSeventies.execute (.use "a") (worldOfOne " ")).1.toOption.any
      (fun _ => true) = true := by
    decide +kernel
  obtain ⟨report, w', hreport, -⟩ := Action.exists_of_any_fst hsucceeds
  obtain ⟨name, after, hname, hafter, htold, hdefault⟩ := huse "a" report w' hreport
  have hread : KeyName.read "a" = .ok Vault.replacement.name := rfl
  have hsame : name = Vault.replacement.name := Except.ok.inj (hname.symm.trans hread)
  subst hsame
  exact ⟨report, w', after, hreport, hafter, htold, hdefault⟩

theorem add_report_overwriting_only_key :
    ∃ report w' after isDefault,
      inSeventies.execute (.add overwriting) (worldOfOne " ") = (.ok report, w') ∧
        inSeventies.vault.load w' = (.ok after, w') ∧
        report.field? ["key", "name"] = some (.string "a") ∧
        report.field? ["key", "isDefault"] = some (.bool isDefault) ∧
        ¬ (isDefault = true ↔ after.defaultName = some Vault.replacement.name) := by
  obtain ⟨before, hcontents, hrange, hdefault, hnames⟩ := contents_worldOfOne
  have hnow : inSeventies.now.InStoredRange := by decide +kernel
  have hsucceeds : (inSeventies.execute (.add overwriting) (worldOfOne " ")).1.toOption.any
      (fun _ => true) = true := by
    decide +kernel
  obtain ⟨report, w', hreport, -⟩ := Action.exists_of_any_fst hsucceeds
  have hadd : inSeventies.add overwriting (worldOfOne " ") = (.ok report, w') := hreport
  obtain ⟨name, after, isDefault, replaced, hname, hafter, htold, hflag, hiff, -⟩ :=
    add_report (readable_worldOfOne " ") hcontents hrange hnow hadd
  have hread : KeyName.read overwriting.name = .ok Vault.replacement.name := rfl
  have hsame : name = Vault.replacement.name := Except.ok.inj (hname.symm.trans hread)
  subst hsame
  exact ⟨report, w', after, isDefault, hreport, Vault.load_of_contents hafter, htold, hflag,
    fun htrue => hiff.1 htrue ⟨hdefault, hnames⟩⟩

end Context
end Keyring
