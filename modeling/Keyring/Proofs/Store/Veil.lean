import Keyring.Proofs.Key.Veil
import Keyring.Proofs.Store.InMemory

/-!
# Saving and loading veiled keys

Whether a collection has a text, and what its text is read as, depends on the secrets in it in one way only:
they are read as what they were.  So the texts of two collections that are equal when veiled are read as
collections that are equal when veiled, or both are refused for the same reason.

Whatever the collection, its text is no name.
-/

namespace Keyring

/-- The entry with the mask of its secret in the place of the secret. -/
def StoredKey.veiled (k : StoredKey) : StoredKey :=
  { k with key := mask k.key }

theorem StoredKey.profile_veiled (k : StoredKey) :
    k.veiled.profile = k.profile.map Profile.veiled := by
  have hendpoint : k.veiled.endpoint = k.endpoint := rfl
  simp only [profile, hendpoint]
  cases hname : KeyName.ofText k.name with
  | error fault => simp [veiled, hname, Except.map]
  | ok name =>
      cases hurl : k.endpoint with
      | error fault => simp [veiled, hname, Except.map]
      | ok url =>
          cases htime : Time.readTimestamp k.createdAt with
          | error fault => simp [veiled, hname, htime, Except.map]
          | ok t =>
              simp only [veiled, hname, htime, Except.map]
              rfl

namespace Collection

theorem ofParts_some
    {c : Collection}
    (name : KeyName)
    (hnone : c.defaultName = none) :
    ofParts c.keys (some name) = (c.setDefault? name).elim (.error (.dangling name)) .ok := by
  unfold ofParts
  split
  · next repeated hrepeat =>
      have hunrepeated : firstRepeat? [] (c.keys.map Profile.name) = none :=
        (firstRepeat?_eq_none_iff _ _).2 ⟨c.names_nodup, fun _ _ => List.not_mem_nil⟩
      rw [hunrepeated] at hrepeat
      cases hrepeat
  · have hsame : (⟨c.keys, none, c.names_nodup, by simp⟩ : Collection) = c :=
      ext_parts rfl hnone.symm
    simp only [hsame]
    cases c.setDefault? name with
    | none => rfl
    | some d => rfl

/-- Parts make up a collection, or do not, without regard to secrets. -/
theorem ofParts_veiled
    (keys : List Profile)
    (defaultName : Option KeyName) :
    ofParts (keys.map Profile.veiled) defaultName = (ofParts keys defaultName).map veiled := by
  have hnames : (keys.map Profile.veiled).map Profile.name = keys.map Profile.name := by
    rw [List.map_map]
    rfl
  cases hrepeat : firstRepeat? [] (keys.map Profile.name) with
  | some name =>
      have hrepeat' : firstRepeat? [] ((keys.map Profile.veiled).map Profile.name) = some name := by
        rw [hnames, hrepeat]
      unfold ofParts
      split
      · next name₁ h₁ =>
          cases hrepeat'.symm.trans h₁
          split
          · next name₂ h₂ =>
              cases hrepeat.symm.trans h₂
              rfl
          · next h₂ => cases hrepeat.symm.trans h₂
      · next h₁ => cases hrepeat'.symm.trans h₁
  | none =>
      have hnodup : (keys.map Profile.name).Nodup := ((firstRepeat?_eq_none_iff _ _).1 hrepeat).1
      let c : Collection := ⟨keys, none, hnodup, by simp⟩
      cases defaultName with
      | none =>
          have hparts : ofParts keys none = .ok c := c.ofParts_parts
          have hparts' : ofParts (keys.map Profile.veiled) none = .ok c.veiled :=
            c.veiled.ofParts_parts
          rw [hparts, hparts']
          rfl
      | some name =>
          have hparts := @ofParts_some c name rfl
          have hparts' := @ofParts_some c.veiled name rfl
          rw [setDefault?_veiled] at hparts'
          refine hparts'.trans ((congrArg (Except.map veiled) hparts).trans ?_).symm
          cases c.setDefault? name with
          | none => rfl
          | some d => rfl

end Collection

namespace Record

/-- The record with all entries veiled. -/
def veiled (r : Record) : Record :=
  { r with keys := r.keys.map StoredKey.veiled }

theorem profilesFrom_veiled
    (index : Nat)
    (keys : List StoredKey) :
    profilesFrom index (keys.map StoredKey.veiled) =
      (profilesFrom index keys).map fun ps => ps.map Profile.veiled := by
  induction keys generalizing index with
  | nil => rfl
  | cons k keys ih =>
      simp only [List.map_cons, profilesFrom, StoredKey.profile_veiled, ih]
      cases k.profile with
      | error fault => rfl
      | ok p =>
          cases profilesFrom (index + 1) keys with
          | error fault => rfl
          | ok ps => rfl

theorem collection_veiled (r : Record) :
    r.veiled.collection = r.collection.map Collection.veiled := by
  have hversion : r.veiled.version = r.version := rfl
  have hkeys : r.veiled.keys = r.keys.map StoredKey.veiled := rfl
  have hdefault : r.veiled.defaultName = r.defaultName := rfl
  simp only [collection, hversion, hkeys, hdefault, profilesFrom_veiled]
  split
  · rfl
  · cases profilesFrom 0 r.keys with
    | error fault => rfl
    | ok profiles =>
        cases r.defaultName with
        | error fault => rfl
        | ok name =>
            simp only [Except.map, Collection.ofParts_veiled]
            cases Collection.ofParts profiles name with
            | error fault => rfl
            | ok c => rfl

theorem ofEntries_veiled (c : Collection) :
    ofEntries c.veiled = (ofEntries c).veiled := by
  simp only [ofEntries, veiled, Collection.keys_veiled, List.map_map]
  rfl

end Record

namespace Vault

theorem isSome_toText?_veiled (c : Collection) :
    (toText? c.veiled).isSome = (toText? c).isSome := by
  have hlate : (∃ p ∈ c.veiled.keys, p.createdAt.date.year > Instant.greatestYear) ↔
      ∃ p ∈ c.keys, p.createdAt.date.year > Instant.greatestYear := by
    simp
  simp only [toText?_eq, hlate]
  split
  · rfl
  · rfl

/-- What the text of a collection is read as. -/
theorem ofText_of_toText?
    (v : Vault)
    {c : Collection}
    {text : String}
    (htext : toText? c = some text) :
    v.ofText text = (Record.ofEntries c).collection.mapError v.invalid := by
  rw [toText?_eq] at htext
  split at htext
  · cases htext
  · cases htext
    rw [ofText, ofText_text_ofEntries]

/-- Two collections that differ at most in their secrets have texts that are read alike. -/
theorem ofText_veiled
    (v : Vault)
    {c d : Collection}
    {text text' : String}
    (h : c.veiled = d.veiled)
    (htext : toText? c = some text)
    (htext' : toText? d = some text') :
    (v.ofText text).map Collection.veiled = (v.ofText text').map Collection.veiled := by
  have hread : ∀ (e : Collection) t, toText? e = some t →
      (v.ofText t).map Collection.veiled =
        (Record.ofEntries e.veiled).collection.mapError v.invalid := by
    intro e t ht
    rw [v.ofText_of_toText? ht, Record.ofEntries_veiled, Record.collection_veiled]
    cases (Record.ofEntries e).collection with
    | error fault => rfl
    | ok c => rfl
  rw [hread c text htext, hread d text' htext', h]

end Vault

/-- A text with a visible character that is in no name holds no name. -/
theorem Marker.ofText?_eq_none
    {text : String}
    {c : Char}
    (hmem : c ∈ text.toList)
    (hvisible : Text.isBlank c = false)
    (hforeign : isNameChar c = false) :
    ofText? text = none := by
  have hkept : c ∈ (Text.trimmed text).toList := by
    rw [Text.trimmed, String.toList_ofList]
    exact Text.mem_trim hmem hvisible
  have hnot : ¬ ((Text.trimmed text).toList.all isNameChar = true) := by
    intro hall
    rw [List.all_eq_true.1 hall c hkept] at hforeign
    cases hforeign
  simp only [ofText?, KeyName.ofText, hnot]
  split
  · rfl
  · rfl

namespace Vault

/-- The text of a collection is no name. -/
theorem marker_ofText?_of_toText?
    {c : Collection}
    {text : String}
    (htext : toText? c = some text) :
    Marker.ofText? text = none := by
  have hbrace : '\x7b' ∈ text.toList := by
    rw [toText?_eq] at htext
    split at htext
    · cases htext
    · cases htext
      obtain ⟨body, hbody⟩ := Json.indentedText_object 0
        [("version", .nat (Record.ofEntries c).version),
          ("keys", .array ((Record.ofEntries c).keys.map StoredKey.json)),
          ("default", .string (Record.ofEntries c).default)]
      have htext : (String.ofList (Json.indentedText 0 (Record.ofEntries c).json)).toList = '\x7b' :: body := by
        rw [← hbody]
        exact String.toList_ofList
      exact htext ▸ List.mem_cons_self
  exact Marker.ofText?_eq_none hbrace (by decide) (by decide)

end Vault
end Keyring
