import Keyring.Command.Execute
import Keyring.Proofs.Command.Reports

/-!
# A key store that cannot be read

No command takes a key store that it cannot read or understand for an empty one.  Each command loads
the key store before it writes, asks, chooses or launches anything, and all that it does before is to
look at its own arguments (`Command.refusal?`).  So on such a key store every command fails, the world
is the same afterwards in every part, and the failure is that of loading unless the arguments are
refused first: `Context.execute_of_unreadable`.
-/

namespace Keyring

/-- The failure of a result. -/
def failure? {α : Type} : Except Failure α → Option Failure
  | .error f => some f
  | .ok _ => none

/-- The failure of a command whose arguments are refused before the key store is loaded. -/
def Command.refusal? : Command → Option Failure
  | list => none
  | current => none
  | add new => (failure? (KeyName.read new.name)).or (failure? (optionalBaseUrl new.baseUrl))
  | edit change =>
      (failure? (KeyName.read change.name)).or
        (if change.isVoid then some KeyEdit.nothingToChange else none)
  | remove name _ => failure? (KeyName.read name)
  | use name => failure? (KeyName.read name)
  | run _ => none
  | completion _ => none

/-- A refused name is a failure of validation. -/
theorem KeyName.kind_of_read
    {raw : String}
    {f : Failure}
    (h : failure? (KeyName.read raw) = some f) :
    f.kind = .validation := by
  unfold KeyName.read at h
  cases hname : KeyName.ofText raw with
  | error fault =>
      rw [hname] at h
      cases h
      rfl
  | ok name =>
      rw [hname] at h
      cases h

/-- A refused base URL is a failure of validation. -/
theorem BaseUrl.kind_of_optionalBaseUrl
    {raw : Option String}
    {f : Failure}
    (h : failure? (optionalBaseUrl raw) = some f) :
    f.kind = .validation := by
  cases raw with
  | none => cases h
  | some raw =>
      unfold optionalBaseUrl BaseUrl.read at h
      cases hurl : BaseUrl.ofText raw with
      | error fault =>
          simp only [hurl] at h
          cases h
          rfl
      | ok url =>
          simp only [hurl] at h
          cases h

/-- Arguments that are refused are a failure of validation. -/
theorem Command.kind_of_refusal?
    {command : Command}
    {f : Failure}
    (h : command.refusal? = some f) :
    f.kind = .validation := by
  cases command with
  | list => cases h
  | current => cases h
  | add new =>
      simp only [refusal?] at h
      rcases Option.or_eq_some_iff.1 h with hname | ⟨-, hurl⟩
      · exact KeyName.kind_of_read hname
      · exact BaseUrl.kind_of_optionalBaseUrl hurl
  | edit change =>
      simp only [refusal?] at h
      rcases Option.or_eq_some_iff.1 h with hname | ⟨-, hvoid⟩
      · exact KeyName.kind_of_read hname
      · split at hvoid
        · cases hvoid
          rfl
        · cases hvoid
  | remove name confirmed =>
      simp only [refusal?] at h
      exact KeyName.kind_of_read h
  | use name =>
      simp only [refusal?] at h
      exact KeyName.kind_of_read h
  | run request => cases h
  | completion shell => cases h

namespace Vault

variable {σ : Type} [FileSystem σ]

/-- A key store that cannot be loaded exists, and either the file cannot be read or its text is no
key store. -/
theorem contents_eq_error
    {v : Vault}
    {s : σ}
    {f : Failure}
    (h : v.contents s = .error f) :
    FileSystem.present v.path s = true ∧
      ((∃ fault, FileSystem.read v.path s = .error fault ∧ f = v.unreadable fault) ∨
        ∃ text, FileSystem.read v.path s = .ok text ∧ v.ofText text = .error f) := by
  unfold contents at h
  split at h
  · next hpresent =>
      refine ⟨hpresent, ?_⟩
      split at h
      · next fault hread =>
          cases h
          exact .inl ⟨fault, hread, rfl⟩
      · next text hread => exact .inr ⟨text, hread, h⟩
  · cases h

end Vault

namespace Context

variable {c : Context} {w : World} {f : Failure} {command : Command}

/-- A command other than for completion stops where it loads the key store, or before. -/
theorem execute_eq_of_unreadable
    (hload : c.vault.load w = (.error (.failed f), w))
    (hcommand : ∀ shell, command ≠ .completion shell) :
    c.execute command w = (.error (.failed (command.refusal?.getD f)), w) := by
  cases command with
  | list => simp [execute, list, hload, Command.refusal?]
  | current => simp [execute, current, Vault.getDefault, hload, Command.refusal?]
  | add new =>
      cases hname : KeyName.read new.name with
      | error refused => simp [execute, add, hname, Command.refusal?, failure?]
      | ok name =>
          cases hurl : optionalBaseUrl new.baseUrl with
          | error refused => simp [execute, add, hname, hurl, Command.refusal?, failure?]
          | ok url => simp [execute, add, hname, hurl, hload, Command.refusal?, failure?]
  | edit change =>
      cases hname : KeyName.read change.name with
      | error refused => simp [execute, edit, hname, Command.refusal?, failure?]
      | ok name =>
          by_cases hvoid : change.isVoid = true
          · simp [execute, edit, hname, hvoid, Command.refusal?, failure?, Action.fail]
          · simp [execute, edit, hname, hvoid, Vault.find, hload, Command.refusal?, failure?]
  | remove raw confirmed =>
      cases hname : KeyName.read raw with
      | error refused => simp [execute, remove, hname, Command.refusal?, failure?]
      | ok name => simp [execute, remove, hname, hload, Command.refusal?, failure?]
  | use raw =>
      cases hname : KeyName.read raw with
      | error refused => simp [execute, use, hname, Command.refusal?, failure?]
      | ok name => simp [execute, use, hname, Vault.setDefault, hload, Command.refusal?, failure?]
  | run request =>
      simp [execute, run, Chooser.resolve, chooser, hload, Command.refusal?]
  | completion shell => exact absurd rfl (hcommand shell)

/-- On a key store that cannot be loaded every command other than for completion fails and leaves
the world as it was: nothing has been written, asked, chosen or launched.  The failure is a refusal of
the arguments, or that of loading: an internal one when the file cannot be read, and otherwise that of
a corrupt store, with the path in its details. -/
theorem execute_of_unreadable
    (hload : c.vault.load w = (.error (.failed f), w))
    (hcommand : ∀ shell, command ≠ .completion shell) :
    c.execute command w = (.error (.failed (command.refusal?.getD f)), w) ∧
      (∀ refused, command.refusal? = some refused → refused.kind = .validation) ∧
      ((∃ fault, FileSystem.read c.vault.path w = .error fault ∧ f.kind = .internal) ∨
        ∃ text, FileSystem.read c.vault.path w = .ok text ∧ f.kind = .corruptStore ∧
          f.details = some (.object [("path", .string c.vault.path)])) := by
  refine ⟨execute_eq_of_unreadable hload hcommand, fun _ => Command.kind_of_refusal?, ?_⟩
  obtain ⟨⟨f', hcontents, hsame⟩, -⟩ := Vault.load_eq_error.1 hload
  cases hsame
  obtain ⟨-, ⟨fault, hread, rfl⟩ | ⟨text, hread, htext⟩⟩ := Vault.contents_eq_error hcontents
  · exact .inl ⟨fault, hread, rfl⟩
  · exact .inr ⟨text, hread, Vault.ofText_eq_error htext⟩

/-- A world with a marker whose key store holds a list. -/
def worldOfList : World :=
  .fresh (some ((Memory.empty.place "keys.json" (some "[]")).place "last_used" (some "a")))
    .bare []

theorem execute_of_unreadable_add :
    ∃ f, inSeventies.execute (.add overwriting) worldOfList = (.error (.failed f), worldOfList) ∧
      f.kind = .corruptStore := by
  have hrefused : (inSeventies.vault.contents worldOfList).toOption.isNone = true := by
    decide +kernel
  cases hcontents : inSeventies.vault.contents worldOfList with
  | ok found =>
      rw [hcontents] at hrefused
      cases hrefused
  | error f =>
      have hload := Vault.load_of_contents_eq_error hcontents
      have hcommand : ∀ shell, Command.add overwriting ≠ .completion shell := fun _ => nofun
      obtain ⟨hfails, -, hkind⟩ := execute_of_unreadable hload hcommand
      refine ⟨f, hfails, ?_⟩
      rcases hkind with ⟨fault, hread, -⟩ | ⟨text, -, hcorrupt, -⟩
      · cases hread
      · exact hcorrupt

end Context
end Keyring
