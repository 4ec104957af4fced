import Keyring.Command.Execute
import Keyring.Proofs.Store.Origin
import Keyring.Proofs.World

/-!
# What a successful command has done

For each command that changes the key store there is one statement that takes its success apart: what
was read, which checks were passed, what was stored and what is reported.
-/

namespace Keyring

/-- What is read as a step of a command is what the source yields. -/
theorem readSecret_of_secretFrom
    {spec secret : String}
    {w w' : World}
    (h : secretFrom spec w = (.ok secret, w')) :
    readSecret spec w = (.ok secret, w') := by
  unfold secretFrom at h
  split at h
  next result w₁ heq =>
    cases result with
    | error f => cases h
    | ok text =>
        cases h
        exact heq

/-- Reading a secret as a step of a command leaves the files alone. -/
theorem sameFiles_secretFrom
    {spec secret : String}
    {w w' : World}
    (h : secretFrom spec w = (.ok secret, w')) :
    World.SameFiles w w' := by
  have hfiles := sameFiles_readSecret spec w
  rw [readSecret_of_secretFrom h] at hfiles
  exact hfiles

/-- Reading a secret as a step of a command writes, starts and launches nothing. -/
theorem rests_secretFrom
    (spec : String)
    (w : World) :
    World.Rests w (secretFrom spec w).2 :=
  rests_readSecret spec w

/-- Asking whether to remove a key yields an answer, and writes, starts and launches nothing. -/
theorem exists_confirm
    (name : KeyName)
    (wasDefault : Bool)
    (w : World) :
    ∃ agreed w', Removal.confirm name wasDefault w = (.ok agreed, w') ∧ World.Rests w w' := by
  unfold Removal.confirm
  split
  · next answer w' heq =>
      cases (congrArg Prod.snd heq :)
      exact ⟨_, _, rfl, .of_memory_eq rfl rfl rfl⟩
  · next heq =>
      cases (congrArg Prod.snd heq :)
      exact ⟨_, _, rfl, .of_memory_eq rfl rfl rfl⟩

/-- What a text that is given for a field leaves in it: what remains after trimming, unless that is nothing
or a single hyphen. -/
def KeyEdit.left (raw : String) : Option String :=
  if Text.trimmed raw = "" ∨ Text.trimmed raw = "-" then none else some (Text.trimmed raw)

/-- Whether an edit makes one key of another: what is given replaces what was there, and all else stays. -/
structure KeyEdit.Makes (change : KeyEdit) (w : World) (old new : Profile) : Prop where
  name : new.name = old.name
  createdAt : new.createdAt = old.createdAt
  secretGiven : ∀ spec ∈ change.secret, (readSecret spec w).1 = .ok new.secret
  secretKept : change.secret = none → new.secret = old.secret
  baseUrlGiven : ∀ raw ∈ change.baseUrl, new.baseUrlText = left raw
  baseUrlKept : change.baseUrl = none → new.baseUrl = old.baseUrl
  noteGiven : ∀ raw ∈ change.note, new.note = left raw
  noteKept : change.note = none → new.note = old.note

section Edits

variable {change : KeyEdit} {old key key' : Profile} {w w' : World} {raw : String}

theorem KeyEdit.clears_iff :
    clears raw = true ↔ Text.trimmed raw = "-" := by
  rw [clears, beq_iff_eq, clearing]

theorem KeyEdit.noteOf_eq_left
    (raw : String) :
    noteOf raw = left raw := by
  unfold noteOf left Text.normalized?
  by_cases hclears : clears raw = true
  · rw [if_pos hclears, if_pos (.inr (clears_iff.1 hclears))]
  · rw [if_neg hclears]
    have hhyphen : Text.trimmed raw ≠ "-" := fun h => hclears (clears_iff.2 h)
    simp [hhyphen]

/-- The endpoint that is set by a text is what the text leaves. -/
theorem KeyEdit.map_value_set?_of_endpoint
    {url : Option BaseUrl}
    (h : endpoint raw = .ok url) :
    (BaseUrl.set? url).map BaseUrl.value = left raw := by
  rw [← noteOf_eq_left, noteOf]
  unfold endpoint at h
  split at h
  · next hclears =>
      cases h
      rw [if_pos hclears]
      rfl
  · next hclears =>
      rw [if_neg hclears]
      cases hread : BaseUrl.read raw with
      | error f =>
          rw [hread] at h
          cases h
      | ok u =>
          rw [hread] at h
          cases h
          exact BaseUrl.map_value_set?_of_ofText (BaseUrl.read_eq_ok_iff.1 hread)

/-- A changed base URL leaves the rest of a key. -/
theorem changeBaseUrl_eq_ok
    (h : change.changeBaseUrl old = .ok key) :
    ∃ url, key = .make old.name old.secret url old.note old.createdAt ∧
      (∀ raw ∈ change.baseUrl, key.baseUrlText = KeyEdit.left raw) ∧
      (change.baseUrl = none → key.baseUrl = old.baseUrl) := by
  unfold KeyEdit.changeBaseUrl at h
  cases hgiven : change.baseUrl with
  | none =>
      rw [hgiven] at h
      cases h
      exact ⟨old.baseUrl, (old.make_baseUrl old.createdAt).symm, by simp, fun _ => rfl⟩
  | some raw =>
      rw [hgiven] at h
      cases hurl : KeyEdit.endpoint raw with
      | error f =>
          simp only [hurl] at h
          cases h
      | ok url =>
          simp only [hurl] at h
          cases h
          refine ⟨url, rfl, ?_, fun hnone => absurd hnone (Option.some_ne_none raw)⟩
          rintro raw' ⟨⟩
          exact KeyEdit.map_value_set?_of_endpoint hurl

/-- A changed note leaves the rest of a key. -/
theorem changeNote_eq
    (change : KeyEdit)
    (key : Profile) :
    change.changeNote key = key.withNote (change.note.elim key.note KeyEdit.left) := by
  unfold KeyEdit.changeNote
  split
  · next hnone => rw [hnone, Option.elim_none, Profile.withNote]
  · next raw hsome => rw [hsome, Option.elim_some, KeyEdit.noteOf_eq_left]

/-- A changed secret leaves the rest of a key, and the files alone. -/
theorem changeSecret_eq_ok
    (h : change.changeSecret key w = (.ok key', w')) :
    ∃ secret, key' = key.withSecret secret ∧
      (∀ spec ∈ change.secret, (readSecret spec w).1 = .ok secret) ∧
      (change.secret = none → secret = key.secret) ∧
      World.SameFiles w w' := by
  unfold KeyEdit.changeSecret at h
  cases hgiven : change.secret with
  | none =>
      rw [hgiven] at h
      obtain ⟨rfl, rfl⟩ := Action.pure_eq_ok.1 h
      exact ⟨key.secret, rfl, by simp, fun _ => rfl, rfl, rfl⟩
  | some spec =>
      rw [hgiven] at h
      obtain ⟨secret, w₁, hsecret, h⟩ := Action.bind_eq_ok.1 h
      obtain ⟨rfl, rfl⟩ := Action.pure_eq_ok.1 h
      refine ⟨secret, rfl, ?_, fun hnone => absurd hnone (Option.some_ne_none spec),
        sameFiles_secretFrom hsecret⟩
      rintro spec' ⟨⟩
      rw [readSecret_of_secretFrom hsecret]

/-- The three changes one after the other make the edited key. -/
theorem makes_of_changes
    {moved : Profile}
    (hurl : change.changeBaseUrl old = .ok moved)
    (hsecret : change.changeSecret (change.changeNote moved) w = (.ok key, w')) :
    change.Makes w old key ∧ World.SameFiles w w' := by
  obtain ⟨url, rfl, hurlGiven, hurlKept⟩ := changeBaseUrl_eq_ok hurl
  rw [changeNote_eq] at hsecret
  obtain ⟨secret, rfl, hsecretGiven, hsecretKept, hfiles⟩ := changeSecret_eq_ok hsecret
  refine ⟨⟨rfl, rfl, hsecretGiven, hsecretKept, hurlGiven, hurlKept, ?_, ?_⟩, hfiles⟩
  · intro raw hraw
    rw [Option.mem_def] at hraw
    simp [Profile.withSecret, Profile.withNote, hraw]
  · intro hnone
    simp [Profile.withSecret, Profile.withNote, hnone, Profile.make]

end Edits

namespace Context

variable {c : Context} {w w' : World} {report : Report}

/-- Later is after some time has gone by. -/
@[simp] theorem later_apply
    {α : Type}
    (x : Action World Abort α)
    (w : World) :
    later x w = x (FileSystem.elapse w) := rfl

/-- The key that is stored by an addition. -/
def newKey
    (c : Context)
    (new : NewKey)
    (name : KeyName)
    (secret : String)
    (baseUrl : Option BaseUrl) :
    Profile :=
  .create name secret baseUrl (new.note.bind Text.normalized?) c.now

/-- A successful addition has read the key store, passed the check on a name that is taken, read the
secret and stored the key. -/
theorem add_eq_ok
    {new : NewKey}
    (h : c.add new w = (.ok report, w')) :
    ∃ name baseUrl before secret w₁ data,
      KeyName.read new.name = .ok name ∧
      optionalBaseUrl new.baseUrl = .ok baseUrl ∧
      c.vault.contents w = .ok before ∧
      (before.contains name = true → new.overwrite = true) ∧
      secretFrom (new.secret.getD NewKey.standardSource) w = (.ok secret, w₁) ∧
      c.store before (c.newKey new name secret baseUrl) (FileSystem.elapse w₁) = (.ok (), w') ∧
      (c.newKey new name secret baseUrl).description?
        (before.isEmpty || before.isDefault name) = some data ∧
      report = .notice
        (.object [("key", data), ("replaced", .bool (before.contains name))])
        (NewKey.confirmation before (c.newKey new name secret baseUrl)) := by
  obtain ⟨name, w₁, hcheck, h⟩ := Action.bind_eq_ok.1 h
  obtain ⟨hname, rfl⟩ := Action.check_eq_ok.1 hcheck
  obtain ⟨baseUrl, w₁, hurl, h⟩ := Action.bind_eq_ok.1 h
  obtain ⟨hbaseUrl, rfl⟩ := Action.check_eq_ok.1 hurl
  obtain ⟨before, w₁, hload, h⟩ := Action.bind_eq_ok.1 h
  obtain ⟨hcontents, rfl⟩ := Vault.load_eq_ok.1 hload
  split at h
  · exact absurd h Action.fail_ne_ok
  · next hfree =>
      obtain ⟨secret, w₁, hsecret, h⟩ := Action.bind_eq_ok.1 h
      obtain ⟨_, w₂, hstore, h⟩ := Action.bind_eq_ok.1 h
      obtain ⟨data, w₃, hdescribed, h⟩ := Action.bind_eq_ok.1 h
      obtain ⟨hdata, rfl⟩ := Action.orCrash_eq_ok.1 hdescribed
      obtain ⟨rfl, rfl⟩ := Action.pure_eq_ok.1 h
      refine ⟨name, baseUrl, before, secret, w₁, data, hname, hbaseUrl, hcontents, ?_, hsecret, hstore,
        hdata, rfl⟩
      intro htaken
      simpa [htaken] using hfree

/-- A successful edit has found the key, stored what it makes of it, and looked up the default
afterwards. -/
theorem edit_eq_ok
    {change : KeyEdit}
    (h : c.edit change w = (.ok report, w')) :
    ∃ name before old key w₁ w₂ after data,
      KeyName.read change.name = .ok name ∧
      c.vault.contents w = .ok before ∧
      (before.find? name = some old ∧ old.name = name) ∧
      change.Makes w old key ∧
      World.SameFiles w w₁ ∧
      c.vault.update key (FileSystem.elapse w₁) = (.ok (), w₂) ∧
      w' = FileSystem.elapse w₂ ∧
      c.vault.contents w' = .ok after ∧
      key.description? (after.default?.any fun p => p.name == name) = some data ∧
      report = .notice
        (.object [("key", data), ("changed", .array (change.changed.map .string))])
        (change.confirmation key) := by
  obtain ⟨name, w₁, hcheck, h⟩ := Action.bind_eq_ok.1 h
  obtain ⟨hname, rfl⟩ := Action.check_eq_ok.1 hcheck
  split at h
  · exact absurd h Action.fail_ne_ok
  obtain ⟨found, w₁, hfind, h⟩ := Action.bind_eq_ok.1 h
  obtain ⟨before, w₂, hload, hfind⟩ := Action.bind_eq_ok.1 hfind
  obtain ⟨hcontents, rfl⟩ := Vault.load_eq_ok.1 hload
  obtain ⟨rfl, rfl⟩ := Action.pure_eq_ok.1 hfind
  cases hold : before.find? name with
  | none =>
      rw [hold] at h
      exact absurd h Action.fail_ne_ok
  | some old =>
      rw [hold] at h
      obtain ⟨moved, w₁, hcheckUrl, h⟩ := Action.bind_eq_ok.1 h
      obtain ⟨hurl, rfl⟩ := Action.check_eq_ok.1 hcheckUrl
      obtain ⟨key, w₁, hsecret, h⟩ := Action.bind_eq_ok.1 h
      obtain ⟨_, w₂, hupdate, h⟩ := Action.bind_eq_ok.1 h
      obtain ⟨standing, w₃, hdefault, h⟩ := Action.bind_eq_ok.1 h
      rw [later_apply] at hupdate hdefault
      obtain ⟨after, w₄, hreload, hdefault⟩ := Action.bind_eq_ok.1 hdefault
      obtain ⟨hafter, rfl⟩ := Vault.load_eq_ok.1 hreload
      obtain ⟨rfl, rfl⟩ := Action.pure_eq_ok.1 hdefault
      obtain ⟨data, w₃, hdescribed, h⟩ := Action.bind_eq_ok.1 h
      obtain ⟨hdata, rfl⟩ := Action.orCrash_eq_ok.1 hdescribed
      obtain ⟨rfl, rfl⟩ := Action.pure_eq_ok.1 h
      obtain ⟨hmakes, hfiles⟩ := makes_of_changes hurl hsecret
      have holdName : old.name = name := by
        have hfound := List.find?_some hold
        simpa using hfound
      exact ⟨name, before, old, key, w₁, w₂, after, data, hname, hcontents, ⟨hold, holdName⟩, hmakes,
        hfiles, hupdate, rfl, hafter, hdata, rfl⟩

/-- A successful removal has found the key, and either removed it or been called off. -/
theorem remove_eq_ok
    {raw : String}
    {confirmed : Bool}
    (h : c.remove raw confirmed w = (.ok report, w')) :
    ∃ name before,
      KeyName.read raw = .ok name ∧
      c.vault.contents w = .ok before ∧
      before.contains name = true ∧
      (report = Removal.cancelled name ∨
        report = Removal.report name (before.isDefault name)) := by
  obtain ⟨name, w₁, hcheck, h⟩ := Action.bind_eq_ok.1 h
  obtain ⟨hname, rfl⟩ := Action.check_eq_ok.1 hcheck
  obtain ⟨before, w₁, hload, h⟩ := Action.bind_eq_ok.1 h
  obtain ⟨hcontents, rfl⟩ := Vault.load_eq_ok.1 hload
  split at h
  · next hstored =>
      refine ⟨name, before, hname, hcontents, hstored, ?_⟩
      have hdecided : ∃ (agreed : Bool) (w₁ : World),
          (if agreed then c.removeStored name (before.isDefault name)
            else pure (Removal.cancelled name) : Action World Abort Report) w₁ =
              (.ok report, w') := by
        simp only at h
        split at h
        · obtain ⟨agreed, w₁, -, h⟩ := Action.bind_eq_ok.1 h
          exact ⟨agreed, w₁, h⟩
        · obtain ⟨agreed, w₁, -, h⟩ := Action.bind_eq_ok.1 h
          exact ⟨agreed, w₁, h⟩
      obtain ⟨agreed, w₁, h⟩ := hdecided
      split at h
      · obtain ⟨_, w₂, -, h⟩ := Action.bind_eq_ok.1 h
        obtain ⟨_, w₃, -, h⟩ := Action.bind_eq_ok.1 h
        obtain ⟨rfl, -⟩ := Action.pure_eq_ok.1 h
        exact .inr rfl
      · obtain ⟨rfl, -⟩ := Action.pure_eq_ok.1 h
        exact .inl rfl
  · exact absurd h Action.fail_ne_ok

/-- A successful choice of the default has stored it. -/
theorem use_eq_ok
    {raw : String}
    (h : c.use raw w = (.ok report, w')) :
    ∃ name,
      KeyName.read raw = .ok name ∧
      c.vault.setDefault name w = (.ok (), w') ∧
      report = .notice (.object [("default", .string name.value)])
        ("Default key set to '" ++ name.value ++ "'") := by
  obtain ⟨name, w₁, hcheck, h⟩ := Action.bind_eq_ok.1 h
  obtain ⟨hname, rfl⟩ := Action.check_eq_ok.1 hcheck
  obtain ⟨_, w₁, hset, h⟩ := Action.bind_eq_ok.1 h
  obtain ⟨rfl, rfl⟩ := Action.pure_eq_ok.1 h
  exact ⟨name, hname, hset, rfl⟩

end Context
end Keyring
