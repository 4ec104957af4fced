import Keyring.Proofs.Command.Reports

/-!
# What an addition may replace

An addition under a name that is taken is refused unless it may overwrite, before the secret is asked for and
without a change.  An addition that succeeds stores what it is given and nothing of an older key; the
new key comes after all others, which stay as they are.
-/

namespace Keyring

open LawfulFileSystem (Readable)

/-- Whether a key holds what is given to add it, and nothing else. -/
structure NewKey.Makes (new : NewKey) (now : Instant) (w : World) (key : Profile) : Prop where
  name : Text.trimmed new.name = key.name.value
  secret : (readSecret (new.secret.getD "prompt") w).1 = .ok key.secret
  baseUrl : key.baseUrlText = new.baseUrl.bind Text.normalized?
  note : key.note = new.note.bind Text.normalized?
  createdAt : key.createdAt = now.cutToMillisecond

section BaseUrls

variable {given : Option String}

/-- The endpoint that is set is what is left of the given text after trimming, unless that is nothing. -/
theorem map_value_set?_of_optionalBaseUrl
    {url : Option BaseUrl}
    (h : optionalBaseUrl given = .ok url) :
    (BaseUrl.set? url).map BaseUrl.value = given.bind Text.normalized? := by
  cases given with
  | none =>
      cases h
      rfl
  | some raw =>
      cases hread : BaseUrl.read raw with
      | error f =>
          rw [optionalBaseUrl, hread] at h
          cases h
      | ok u =>
          rw [optionalBaseUrl, hread] at h
          cases h
          rw [Option.bind_some, BaseUrl.map_value_set?_of_ofText (BaseUrl.read_eq_ok_iff.1 hread)]

theorem exists_optionalBaseUrl
    (h : ∀ raw ∈ given, ∃ url, BaseUrl.ofText raw = .ok url) :
    ∃ url, optionalBaseUrl given = .ok url := by
  cases given with
  | none => exact ⟨none, rfl⟩
  | some raw =>
      obtain ⟨url, hurl⟩ := h raw rfl
      rw [optionalBaseUrl, BaseUrl.read_eq_ok_iff.2 hurl]
      exact ⟨some url, rfl⟩

end BaseUrls

namespace Context

variable {c : Context} {w w' : World} {before : Collection} {new : NewKey} {report : Report}

/-- A name that is taken is refused before the secret is read. -/
theorem add_of_taken
    {name : KeyName}
    (hload : c.vault.load w = (.ok before, w))
    (hname : KeyName.read new.name = .ok name)
    (hurl : ∃ url, optionalBaseUrl new.baseUrl = .ok url)
    (hstored : name ∈ before.names)
    (hforbidden : new.overwrite = false) :
    c.add new w = (.error (.failed (NewKey.taken name)), w) := by
  obtain ⟨url, hurl⟩ := hurl
  have htaken : before.contains name = true := Collection.contains_iff.2 hstored
  simp [add, hname, hurl, hload, htaken, hforbidden, Action.fail]

/-- A new key that has been stored holds what was given. -/
theorem makes_newKey
    {name : KeyName}
    {url : Option BaseUrl}
    {secret : String}
    (hname : KeyName.read new.name = .ok name)
    (hurl : optionalBaseUrl new.baseUrl = .ok url)
    (hsecret : secretFrom (new.secret.getD NewKey.standardSource) w = (.ok secret, w')) :
    new.Makes c.now w (c.newKey new name secret url) where
  name := KeyName.read_eq_ok_iff.1 hname
  secret := congrArg Prod.fst (readSecret_of_secretFrom hsecret)
  baseUrl := map_value_set?_of_optionalBaseUrl hurl
  note := rfl
  createdAt := rfl

/-- A key that is new but not the first one leaves the default. -/
theorem defaultAfterStore_of_not_mem
    {key : Profile}
    (hnew : key.name ∉ before.names)
    (hnonempty : before.keys ≠ []) :
    defaultAfterStore before key = before.defaultName := by
  rw [defaultAfterStore, if_neg (mt Collection.contains_iff.1 hnew), Collection.defaultAfterAdd]
  exact if_neg (mt List.isEmpty_iff.1 hnonempty)

/-- Nothing is replaced without permission, and an addition that succeeds changes no other key.

A name that is taken is refused with a failure of its own, whatever the secret would be.  A new key comes
after all others and becomes the default if it is the first one.  A key that is overwritten gives way to
one that holds nothing but what was given. -/
theorem additions_need_permission
    (hreadable : Readable w)
    (hload : c.vault.load w = (.ok before, w))
    (hrange : before.InStoredRange)
    (hnow : c.now.InStoredRange)
    (new : NewKey) :
    (∀ name ∈ before.names, Text.trimmed new.name = name.value → new.overwrite = false →
      (∀ raw ∈ new.baseUrl, ∃ url, BaseUrl.ofText raw = .ok url) →
      ∃ f, c.execute (.add new) w = (.error (.failed f), w) ∧ f.kind = .validation ∧
        f.message = "key '" ++ name.value ++ "' already exists; pass --overwrite to replace it") ∧
    (∀ report w', c.execute (.add new) w = (.ok report, w') →
      ∃ key after,
        new.Makes c.now w key ∧
        c.vault.load w' = (.ok after, w') ∧
        after.keys = before.others key.name ++ [key] ∧
        (∀ n, n ≠ key.name → after.find? n = (before.find? n).map Profile.atMillisecond) ∧
        (key.name ∈ before.names → new.overwrite = true) ∧
        (key.name ∉ before.names → after.keys = before.keys.map Profile.atMillisecond ++ [key]) ∧
        (before.keys = [] → after.defaultName = some key.name) ∧
        (key.name ∉ before.names → before.keys ≠ [] → after.defaultName = before.defaultName)) := by
  have hcontents := Vault.contents_of_load hload
  refine ⟨?_, ?_⟩
  · intro name hstored hname hforbidden hurl
    refine ⟨NewKey.taken name, ?_, rfl, rfl⟩
    exact add_of_taken hload (KeyName.read_eq_ok_iff.2 hname) (exists_optionalBaseUrl hurl) hstored hforbidden
  · intro report w' h
    obtain ⟨name, url, found, secret, w₁, data, hname, hurl, hfound, hallowed, hsecret, hstore, -, -⟩ :=
      add_eq_ok h
    cases hfound.symm.trans hcontents
    have hfiles := sameFiles_secretFrom hsecret
    have hreadable₁ := hfiles.readable hreadable
    have hlater := LawfulFileSystem.readableAt (LawfulFileSystem.readable_elapse hreadable₁) c.vault.path
    have hload₁ : c.vault.contents (FileSystem.elapse w₁) = .ok before := by
      rw [Vault.contents_elapse (LawfulFileSystem.readableAt hreadable₁ _) hlater, hfiles.contents, hcontents]
    have hkey : (c.newKey new name secret url).createdAt.InStoredRange := hnow.cutToMillisecond
    have hkept : (c.newKey new name secret url).atMillisecond = c.newKey new name secret url :=
      Profile.atMillisecond_create _ _ _ _ _
    obtain ⟨after, hafter, hkeys, hdefault⟩ := contents_of_store hlater hload₁ hrange hkey hstore
    rw [hkept] at hkeys
    refine ⟨c.newKey new name secret url, after, makes_newKey hname hurl hsecret,
      Vault.load_of_contents hafter, hkeys, fun n => ?_, fun hstored => ?_, fun hnew => ?_, fun hempty => ?_,
      fun hnew hnonempty => ?_⟩
    · exact Collection.find?_of_others hkeys fun p hp => congrArg Profile.name (List.mem_singleton.1 hp)
    · exact hallowed (Collection.contains_iff.2 hstored)
    · rw [hkeys, Collection.others_of_not_mem hnew, Collection.keys_atMillisecond]
    · rw [hdefault]
      exact defaultAfterStore_of_isEmpty (List.isEmpty_iff.2 hempty)
    · rw [hdefault]
      exact defaultAfterStore_of_not_mem hnew hnonempty

theorem additions_need_permission_overwriting :
    ∃ before,
      Readable (worldOfOne " ") ∧
      inSeventies.vault.load (worldOfOne " ") = (.ok before, worldOfOne " ") ∧
      before.InStoredRange ∧ inSeventies.now.InStoredRange ∧
      (∃ f, inSeventies.execute (.add { overwriting with overwrite := false }) (worldOfOne " ") =
          (.error (.failed f), worldOfOne " ") ∧ f.kind = .validation) ∧
      ∃ report w' key after,
        inSeventies.execute (.add overwriting) (worldOfOne " ") = (.ok report, w') ∧
        inSeventies.vault.load w' = (.ok after, w') ∧ after.keys.getLast? = some key ∧
        key.name = Vault.replacement.name ∧ key.secret = "n" ∧ key.createdAt = ⟨0⟩ := by
  obtain ⟨before, hcontents, hrange, -, hnames⟩ := contents_worldOfOne
  have hload := Vault.load_of_contents hcontents
  have hreadable := readable_worldOfOne " "
  have hnow : inSeventies.now.InStoredRange := by decide +kernel
  have hstored : Vault.replacement.name ∈ before.names := by
    rw [hnames]
    exact List.mem_singleton_self _
  have hsucceeds : (inSeventies.execute (.add overwriting) (worldOfOne " ")).1.toOption.any
      (fun _ => true) = true := by
    decide +kernel
  obtain ⟨report, w', hreport, -⟩ := Action.exists_of_any_fst hsucceeds
  obtain ⟨f, hrefused, hkind, -⟩ :=
    (additions_need_permission hreadable hload hrange hnow { overwriting with overwrite := false }).1
      Vault.replacement.name hstored (by decide +kernel) rfl (by rintro raw ⟨⟩)
  obtain ⟨key, after, hmakes, hafter, hkeys, -⟩ :=
    (additions_need_permission hreadable hload hrange hnow overwriting).2 report w' hreport
  have hread : KeyName.read overwriting.name = .ok Vault.replacement.name := rfl
  have hname : key.name = Vault.replacement.name :=
    Except.ok.inj ((KeyName.read_eq_ok_iff.2 hmakes.name).symm.trans hread)
  have hyield : (readSecret (overwriting.secret.getD "prompt") (worldOfOne " ")).1.toOption = some "n" := by
    decide +kernel
  have hsecret : some key.secret = some "n" := by
    rw [← hyield, hmakes.secret]
    rfl
  refine ⟨before, hreadable, hload, hrange, hnow, ⟨f, hrefused, hkind⟩, report, w', key, after, hreport,
    hafter, ?_, hname, Option.some.inj hsecret, hmakes.createdAt.trans (by decide +kernel)⟩
  rw [hkeys, List.getLast?_concat]

end Context
end Keyring
