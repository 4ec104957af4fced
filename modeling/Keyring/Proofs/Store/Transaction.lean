import Keyring.Proofs.Action
import Keyring.Proofs.Store.Default

/-!
# Changes of the key store as transactions

A change of the key store loads the collection, works on it and saves all of it.  `Change` is a change
as data, `Change.applied` is what it makes of a collection in memory, and `Vault.perform_eq` says that
the key store carries out every change in this one way.

So the only call that can fail after the file has been written is the one that makes it private.
`Vault.unchanged_or_halfSaved` says what is left when an operation fails: either nothing at all has
changed, or the file holds the whole text of the changed collection and that last call has failed.
-/

namespace Keyring

namespace Collection

/-- The collection with another default, which has to be the name of a key. -/
def designate (c : Collection) (name : KeyName) : Except Failure Collection :=
  match c.setDefault? name with
  | some c => .ok c
  | none => .error (.keyNotFound name.value)

/-- The collection with a key removed and added again, the default of before restored. -/
def exchange (c : Collection) (key : Profile) : Except Failure Collection :=
  if c.isDefault key.name then ((c.remove key.name).add key).designate key.name
  else .ok ((c.remove key.name).add key)

/-- The key store replaces a key by the same steps. -/
theorem exchange_eq (c : Collection) (key : Profile) :
    c.exchange key =
      match Vault.updated c key with
      | some c' => .ok c'
      | none => .error (.keyNotFound key.name.value) := by
  by_cases hdefault : c.isDefault key.name = true
  · simp [exchange, Vault.updated, designate, hdefault]
  · simp [exchange, Vault.updated, hdefault]

end Collection

/-- A change of the key store. -/
inductive Change
  | add (key : Profile)
  | update (key : Profile)
  | remove (name : KeyName)
  | setDefault (name : KeyName)

namespace Change

/-- What a change answers when it succeeds. -/
inductive Answer
  | done
  | removed (found : Bool)
deriving DecidableEq, Repr

/-- What a change makes of a collection in memory. -/
def applied (c : Collection) : Change → Except Failure (Answer × Collection)
  | add key => .ok (.done, c.add key)
  | update key => (c.exchange key).map (.done, ·)
  | remove name => .ok (.removed (c.contains name), c.remove name)
  | setDefault name => (c.designate name).map (.done, ·)

end Change

namespace Vault

section Perform

variable {σ : Type} [FileSystem σ]

/-- Carries out a change of the key store. -/
def perform (v : Vault) : Change → Action σ Abort Change.Answer
  | .add key => do
      v.add key
      return .done
  | .update key => do
      v.update key
      return .done
  | .remove name => do
      let found ← v.remove name
      return .removed found
  | .setDefault name => do
      v.setDefault name
      return .done

/-- Every change loads the collection, works on it and saves all of it. -/
theorem perform_eq (v : Vault) (change : Change) :
    (v.perform change : Action σ Abort Change.Answer) = do
      let c ← v.load
      let result ← .check (change.applied c)
      v.save result.2
      return result.1 := by
  funext s
  cases hcontents : v.contents s with
  | error f =>
      have hload := load_of_contents_eq_error hcontents
      cases change <;>
        simp [perform, add, update, remove, setDefault, hload]
  | ok c =>
      have hload := load_of_contents hcontents
      cases change with
      | add key => simp [perform, add, hload, Change.applied]
      | update key =>
          obtain ⟨c', hupdated⟩ := c.exists_updated key
          simp [perform, update, hload, Change.applied, Collection.exchange_eq, hupdated, Except.map]
      | remove name =>
          cases hsave : v.save (c.remove name) s with
          | mk result s' =>
              cases result with
              | error e => simp [perform, remove, hload, Change.applied, hsave]
              | ok done => simp [perform, remove, hload, Change.applied, hsave]
      | setDefault name =>
          cases hchosen : c.setDefault? name with
          | none =>
              simp [perform, setDefault, hload, Change.applied, Collection.designate, hchosen,
                Except.map, Action.fail]
          | some c' =>
              simp [perform, setDefault, hload, Change.applied, Collection.designate, hchosen,
                Except.map]

end Perform

/-- Whether an operation on files in memory has written the whole text of a collection and then failed
to make the file private. -/
structure HalfSaved (v : Vault) (c : Collection) (m : Memory) (abort : Abort) (m' : Memory) : Prop where
  writes : m.fails .write v.path = false
  fails : m.fails .setMode v.path = true
  reported : abort = .failed (v.unwritable (.scripted .setMode))
  stored : ∃ text, toText? c = some text ∧
    m' = { m with text := Memory.replace m.text v.path (some text), writes := m.writes + 1 }

/-- A save that fails changes nothing unless only the last call has failed. -/
theorem save_eq_error
    {v : Vault}
    {c : Collection}
    {m m' : Memory}
    {abort : Abort}
    (h : v.save c m = (.error abort, m')) :
    m' = m ∨ v.HalfSaved c m abort m' := by
  unfold save at h
  split at h
  · cases h
    exact .inl rfl
  · next text htext =>
      split at h
      · next fault s hwrite =>
          cases h
          unfold writePrivate at hwrite
          split at hwrite
          · next hfailed =>
              cases hwrite
              exact .inl (Memory.write_eq_error_iff.1 hfailed).2.2
          · next m₁ hwritten =>
              obtain ⟨hwrites, rfl⟩ := Memory.write_eq_ok_iff.1 hwritten
              -- The file exists by now, so there is one reason left for the last call to fail.
              obtain ⟨hreason | hmissing, rfl⟩ := Memory.setMode_eq_error_iff.1 hwrite
              · exact .inr ⟨hwrites, hreason.1, by rw [hreason.2], text, htext, rfl⟩
              · simp at hmissing
      · cases h

/-- An operation on the key store that fails changes nothing, unless only the call that makes the
written file private has failed: then the file holds the whole text of the changed collection. -/
theorem unchanged_or_halfSaved (v : Vault) (m m' : Memory) (abort : Abort) :
    (∀ c, v.save c m = (.error abort, m') → m' = m ∨ v.HalfSaved c m abort m') ∧
    (∀ change, v.perform change m = (.error abort, m') →
      m' = m ∨ ∃ c answer c', v.contents m = .ok c ∧ change.applied c = .ok (answer, c') ∧
        v.HalfSaved c' m abort m') := by
  refine ⟨fun c h => save_eq_error h, ?_⟩
  intro change h
  rw [perform_eq] at h
  rcases Action.bind_eq_error.1 h with hload | ⟨c, m₁, hload, h⟩
  · exact .inl (load_eq_error.1 hload).2.symm
  obtain ⟨hcontents, rfl⟩ := load_eq_ok.1 hload
  rcases Action.bind_eq_error.1 h with hrefused | ⟨⟨answer, c'⟩, m₁, hchecked, h⟩
  · exact .inl (Action.check_eq_error.1 hrefused).2.symm
  obtain ⟨happlied, rfl⟩ := Action.check_eq_ok.1 hchecked
  rcases Action.bind_eq_error.1 h with hsave | ⟨_, m₁, -, hanswer⟩
  · rcases save_eq_error hsave with rfl | hhalf
    · exact .inl rfl
    · exact .inr ⟨c, answer, c', hcontents, happlied, hhalf⟩
  · cases hanswer

/-- The key store of `storeOfOne`, where a call fails. -/
def faultyStore (call : FileCall) : Memory :=
  (storeOfOne "2024-01-01T00:00:00Z" "a").withFailing fun _ c _ => c == call

theorem unchanged_faultyStore_write :
    ∃ abort m', (⟨"keys.json"⟩ : Vault).perform (.remove replacement.name) (faultyStore .write) =
      (.error abort, m') ∧ m' = faultyStore .write := by
  let v : Vault := ⟨"keys.json"⟩
  have hfails : ((v.perform (.remove replacement.name) (faultyStore .write)).1.toOption).isNone = true := by
    decide +kernel
  obtain ⟨abort, m', hperform⟩ := Action.exists_of_isNone_toOption hfails
  refine ⟨abort, m', hperform, ?_⟩
  rcases (unchanged_or_halfSaved v _ m' abort).2 _ hperform with hsame | ⟨_, _, _, -, -, hhalf⟩
  · exact hsame
  · exact absurd hhalf.writes (by decide)

theorem text_changed_faultyStore_setMode :
    ∃ abort m', (⟨"keys.json"⟩ : Vault).perform (.remove replacement.name) (faultyStore .setMode) =
      (.error abort, m') ∧ m'.text "keys.json" ≠ (faultyStore .setMode).text "keys.json" := by
  let v : Vault := ⟨"keys.json"⟩
  let outcome := v.perform (.remove replacement.name) (faultyStore .setMode)
  have hfacts : (outcome.1.toOption.isNone &&
      decide (outcome.2.text "keys.json" ≠ (faultyStore .setMode).text "keys.json")) = true := by
    decide +kernel
  rw [Bool.and_eq_true, decide_eq_true_eq] at hfacts
  obtain ⟨abort, m', hperform⟩ := Action.exists_of_isNone_toOption hfacts.1
  refine ⟨abort, m', hperform, ?_⟩
  have hafter : outcome.2 = m' := congrArg Prod.snd hperform
  rw [← hafter]
  exact hfacts.2

end Vault
end Keyring
