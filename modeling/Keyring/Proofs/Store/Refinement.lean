import Keyring.Proofs.File.Permission
import Keyring.Proofs.Store.Transaction

/-!
# The key store refines the collection

Between two calls nothing is kept but the file, so every change goes through a text that is written and
read again.  `Vault.perform_refines` is the step: where no call of the file system fails, a change of the
key store answers what the same change of the loaded collection answers, and afterwards the key store
holds what is kept of the changed collection.  `Vault.performAll_refines` follows by induction on the
changes and speaks of runs of any length.

A change that succeeds writes the file once and makes it private; one that is refused leaves the state
alone.
-/

namespace Keyring

namespace Change

/-- Whether the key that a change brings was made in the years from 0 to 9999. -/
def InStoredRange : Change → Prop
  | add key => key.createdAt.InStoredRange
  | update key => key.createdAt.InStoredRange
  | remove _ => True
  | setDefault _ => True

/-- The answer of a change and what is kept afterwards: a refused change keeps the collection as it
is, any other the changed collection in whole milliseconds. -/
def kept (change : Change) (c : Collection) : Except Failure Answer × Collection :=
  match change.applied c with
  | .ok (answer, c') => (.ok answer, c'.atMillisecond)
  | .error f => (.error f, c)

/-- The answers of changes one after the other, each with what is kept after it. -/
def keptAll : List Change → Collection → List (Except Failure Answer × Collection)
  | [], _ => []
  | change :: changes, c => change.kept c :: keptAll changes (change.kept c).2

end Change

namespace Collection

theorem inStoredRange_atMillisecond
    {c : Collection}
    (h : c.InStoredRange) :
    c.atMillisecond.InStoredRange := by
  intro p hp
  obtain ⟨q, hq, rfl⟩ := List.mem_map.1 hp
  exact (h q hq).cutToMillisecond

theorem inStoredRange_applied
    {c c' : Collection}
    {change : Change}
    {answer : Change.Answer}
    (hrange : c.InStoredRange)
    (hchange : change.InStoredRange)
    (h : change.applied c = .ok (answer, c')) :
    c'.InStoredRange := by
  cases change with
  | add key =>
      cases h
      exact inStoredRange_add hrange hchange
  | update key =>
      obtain ⟨c₁, hupdated⟩ := c.exists_updated key
      simp only [Change.applied, exchange_eq, hupdated, Except.map] at h
      cases h
      exact inStoredRange_updated hrange hchange hupdated
  | remove name =>
      cases h
      exact inStoredRange_remove name hrange
  | setDefault name =>
      cases hset : c.setDefault? name with
      | none =>
          simp only [Change.applied, designate, hset, Except.map] at h
          cases h
      | some c₁ =>
          simp only [Change.applied, designate, hset, Except.map] at h
          cases h
          exact inStoredRange_setDefault? hrange hset

theorem inStoredRange_kept
    {c : Collection}
    {change : Change}
    (hrange : c.InStoredRange)
    (hchange : change.InStoredRange) :
    (change.kept c).2.InStoredRange := by
  unfold Change.kept
  split
  · next happlied => exact inStoredRange_atMillisecond (inStoredRange_applied hrange hchange happlied)
  · exact hrange

end Collection

namespace Vault

variable {σ : Type} [FileSystem σ]

/-- A call that changes the key store: the state before it, its result and the state after it. -/
structure Performed (σ : Type) where
  before : σ
  result : Except Abort Change.Answer
  after : σ

/-- The calls for changes one after the other. -/
def performAll (v : Vault) : List Change → σ → List (Performed σ)
  | [], _ => []
  | change :: changes, s =>
      ⟨s, (v.perform change s).1, (v.perform change s).2⟩ ::
        v.performAll changes (v.perform change s).2

/-- Whether a state is left by writing the file of the key store once and making it private. -/
def StoredOnce [PermissionView σ] (v : Vault) (s s' : σ) : Prop :=
  ∃ text s₁, FileSystem.write v.path text s = (.ok (), s₁) ∧
    FileSystem.setMode v.path privateMode s₁ = (.ok (), s') ∧
    PermissionView.mode? v.path s' = some privateMode

theorem storedOnce_of_save
    [LawfulFileSystem σ]
    [PermissionView σ]
    {v : Vault}
    {c : Collection}
    {s s' : σ}
    (hreadable : LawfulFileSystem.ReadableAt v.path s)
    (h : v.save c s = (.ok (), s')) :
    v.StoredOnce s s' := by
  obtain ⟨text, -, hprivate⟩ := writePrivate_of_save h
  unfold writePrivate at hprivate
  split at hprivate
  · cases hprivate
  · next s₁ hwrite =>
      have hread := LawfulFileSystem.read_write hreadable hwrite
      exact ⟨text, s₁, hwrite, hprivate, PermissionView.mode?_setMode hread hprivate⟩

/-- In memory the writes and the permission bits can be counted and seen. -/
theorem memory_of_storedOnce
    {v : Vault}
    {m m' : Memory}
    (h : v.StoredOnce m m') :
    m'.writes = m.writes + 1 ∧ m'.mode v.path = some privateMode := by
  obtain ⟨text, m₁, hwrite, hmode, hprivate⟩ := h
  obtain ⟨-, rfl⟩ := Memory.write_eq_ok_iff.1 hwrite
  obtain ⟨-, rfl⟩ := Memory.setMode_eq_ok_iff.1 hmode
  exact ⟨rfl, hprivate⟩

variable [LawfulFileSystem σ] [PermissionView σ]

/-- One change: the answer is that of the loaded collection, and what is kept of the changed
collection is what the key store holds afterwards. -/
theorem perform_refines
    {v : Vault}
    {c : Collection}
    {s : σ}
    {change : Change}
    (hsteady : v.Steady s)
    (hload : v.contents s = .ok c)
    (hrange : c.InStoredRange)
    (hchange : change.InStoredRange) :
    ∃ s', v.perform change s = ((change.kept c).1.mapError .failed, s') ∧
      v.contents s' = .ok (change.kept c).2 ∧ v.Steady s' ∧
      match (change.kept c).1 with
      | .ok _ => v.StoredOnce s s'
      | .error _ => s' = s := by
  cases happlied : change.applied c with
  | error f =>
      have hkept : change.kept c = (.error f, c) := by rw [Change.kept, happlied]
      rw [hkept]
      refine ⟨s, ?_, hload, hsteady, rfl⟩
      simp [perform_eq, load_of_contents hload, happlied, Except.mapError]
  | ok result =>
      obtain ⟨answer, c'⟩ := result
      have hkept : change.kept c = (.ok answer, c'.atMillisecond) := by rw [Change.kept, happlied]
      have hrange' := Collection.inStoredRange_applied hrange hchange happlied
      obtain ⟨text, htext, -⟩ := v.ofText_toText? hrange'
      obtain ⟨s', hsave, hsteady'⟩ := save_of_steady hsteady htext
      rw [hkept]
      refine ⟨s', ?_, contents_of_save hsteady.readable hrange' hsave, hsteady',
        storedOnce_of_save hsteady.readable hsave⟩
      simp [perform_eq, load_of_contents hload, happlied, hsave, Except.mapError]

/-- Any number of changes one after the other: each call answers what the change of the loaded
collection answers, and the key store then holds what is kept of that.  A call that succeeds writes
the file once and makes it private; one that fails leaves the state as it was. -/
theorem performAll_refines
    {v : Vault}
    {c : Collection}
    {s : σ}
    {changes : List Change}
    (hsteady : v.Steady s)
    (hload : v.load s = (.ok c, s))
    (hrange : c.InStoredRange)
    (hchanges : ∀ change ∈ changes, change.InStoredRange) :
    (v.performAll changes s).map (fun call => (call.result, v.contents call.after)) =
        (Change.keptAll changes c).map (fun kept => (kept.1.mapError .failed, .ok kept.2)) ∧
      ∀ call ∈ v.performAll changes s,
        (∀ answer, call.result = .ok answer → v.StoredOnce call.before call.after) ∧
        ∀ abort, call.result = .error abort → call.after = call.before := by
  have hcontents := contents_of_load hload
  clear hload
  -- The invariant: the key store holds a collection in the stored range, and no call fails.
  induction changes generalizing s c with
  | nil => simp [performAll, Change.keptAll]
  | cons change changes ih =>
      obtain ⟨s', hperform, hcontents', hsteady', hwrites⟩ :=
        perform_refines hsteady hcontents hrange (hchanges change List.mem_cons_self)
      have hrange' : (change.kept c).2.InStoredRange :=
        Collection.inStoredRange_kept hrange (hchanges change List.mem_cons_self)
      obtain ⟨hrest, hrestWrites⟩ := ih hsteady' hrange'
        (fun later hlater => hchanges later (List.mem_cons_of_mem change hlater)) hcontents'
      simp only [performAll, Change.keptAll, hperform, List.map_cons, hrest, hcontents', true_and]
      intro call hcall
      rcases List.mem_cons.1 hcall with rfl | hcall
      · cases hresult : (change.kept c).1 with
        | error f =>
            rw [hresult] at hwrites
            simp [Except.mapError, hwrites]
        | ok answer =>
            rw [hresult] at hwrites
            simp [Except.mapError, hwrites]
      · exact hrestWrites call hcall

/-- Changes of a store with one key, of which the second names a key that is not there. -/
def errands : List Change :=
  [.add (.create ⟨"b", by decide, by decide⟩ "k2" none (some "\n") ⟨1700000000123456789⟩),
    .setDefault ⟨"ghost", by decide, by decide⟩, .update replacement, .remove replacement.name,
    .remove replacement.name]

theorem performAll_refines_errands :
    ((⟨"keys.json"⟩ : Vault).performAll errands
          (storeOfOne "2024-02-29T23:30:00.123456+05:30" " ")).map (fun call => call.result.toOption) =
        [some .done, none, some .done, some (.removed true), some (.removed false)] ∧
      ∀ call ∈ (⟨"keys.json"⟩ : Vault).performAll errands
          (storeOfOne "2024-02-29T23:30:00.123456+05:30" " "),
        ∀ answer, call.result = .ok answer →
          call.after.writes = call.before.writes + 1 ∧ call.after.mode "keys.json" = some 0o600 := by
  let v : Vault := ⟨"keys.json"⟩
  let m := storeOfOne "2024-02-29T23:30:00.123456+05:30" " "
  let answers : List (Option Change.Answer) :=
    [some .done, none, some .done, some (.removed true), some (.removed false)]
  have hfacts : (v.contents m).toOption.any (fun c => decide c.InStoredRange &&
      decide ((Change.keptAll errands c).map (fun kept => kept.1.toOption) = answers)) = true := by
    decide +kernel
  obtain ⟨c, hcontents, htest⟩ := Action.exists_of_any_toOption hfacts
  simp only [Bool.and_eq_true, decide_eq_true_eq] at htest
  obtain ⟨hrange, hanswers⟩ := htest
  have hchanges : ∀ change ∈ errands, change.InStoredRange := by
    simp only [errands, List.forall_mem_cons, Change.InStoredRange, true_and]
    exact ⟨by decide +kernel, by decide +kernel, by simp⟩
  have hsteady : v.Steady m := Memory.steady v fun _ => rfl
  obtain ⟨htrace, hcalls⟩ :=
    performAll_refines hsteady (load_of_contents hcontents) hrange hchanges
  constructor
  · have hresults := congrArg (List.map fun entry => entry.1.toOption) htrace
    simp only [List.map_map, Function.comp_def] at hresults
    rw [hresults]
    refine (List.map_congr_left fun kept _ => ?_).trans hanswers
    cases kept.1 with
    | error f => rfl
    | ok answer => rfl
  · intro call hcall answer hanswer
    exact memory_of_storedOnce ((hcalls call hcall).1 answer hanswer)

end Vault
end Keyring
