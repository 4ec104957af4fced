import Keyring.Proofs.Key.Reading
import Keyring.Proofs.Store.Record
import Keyring.Proofs.Time.Timestamp
import Keyring.Store.Vault

/-!
# Collections read back

What the key store keeps of a collection is everything but the part of a millisecond in its creation
times.  As long as these lie in the years from 0 to 9999 the text of a collection is read as what is
kept of it; a later year has no text, and a text with an earlier one is refused.
-/

namespace Keyring

namespace Profile

/-- What the key store keeps of a profile. -/
def atMillisecond (p : Profile) : Profile :=
  { p with createdAt := p.createdAt.cutToMillisecond }

/-- The entry of a profile whose creation time has a text. -/
def entry (p : Profile) : StoredKey :=
  ⟨p.name.value, p.secret, p.baseUrlText, p.note, String.ofList p.createdAt.storedText⟩

/-- A profile has an entry unless it was made after the greatest year. -/
theorem ofProfile?_eq (p : Profile) :
    StoredKey.ofProfile? p =
      if p.createdAt.date.year > Instant.greatestYear then none else some p.entry := by
  rw [StoredKey.ofProfile?, Instant.stored?_eq]
  split
  · rfl
  · rfl

/-- Making a profile from its own parts gives that profile. -/
theorem make_baseUrl
    (p : Profile)
    (createdAt : Instant) :
    make p.name p.secret p.baseUrl p.note createdAt = { p with createdAt := createdAt } := by
  have hset : BaseUrl.set? p.baseUrl = p.baseUrl := by
    have hnonempty := p.baseUrl_nonempty
    cases hurl : p.baseUrl with
    | none => rfl
    | some url =>
        rw [hurl, Option.all_some] at hnonempty
        simp [BaseUrl.set?, Option.filter, hnonempty]
  simp [make, hset]

/-- The base URL of an entry is that of its profile. -/
theorem endpoint_entry (p : Profile) :
    p.entry.endpoint = .ok p.baseUrl := by
  cases hurl : p.baseUrl with
  | none => simp [StoredKey.endpoint, entry, baseUrlText, hurl]
  | some url => simp [StoredKey.endpoint, entry, baseUrlText, hurl, Except.map]

/-- An entry is read as what is kept of its profile. -/
theorem profile_entry
    {p : Profile}
    (h : p.createdAt.InStoredRange) :
    p.entry.profile = .ok p.atMillisecond := by
  have hname : KeyName.ofText p.entry.name = .ok p.name := p.name.ofText_value
  have htime : Time.readTimestamp p.entry.createdAt = .ok p.createdAt.cutToMillisecond :=
    Time.readTimestamp_storedText h
  simp only [StoredKey.profile, hname, endpoint_entry, htime]
  exact congrArg Except.ok (p.make_baseUrl p.createdAt.cutToMillisecond)

/-- An entry from before the year zero is refused. -/
theorem profile_entry_of_neg
    {p : Profile}
    (h : p.createdAt.date.year < 0) :
    p.entry.profile = .error (.createdAt p.entry.createdAt (.component "year")) := by
  have hname : KeyName.ofText p.entry.name = .ok p.name := p.name.ofText_value
  have htime : Time.readTimestamp p.entry.createdAt = .error (.component "year") :=
    Time.readTimestamp_storedText_of_neg h
  simp only [StoredKey.profile, hname, endpoint_entry, htime]

/-- What is kept of a profile has the same entry. -/
@[simp] theorem entry_atMillisecond (p : Profile) :
    p.atMillisecond.entry = p.entry := by
  simp [entry, atMillisecond, baseUrlText]

/-- What is kept of a profile was made in the same year. -/
@[simp] theorem year_atMillisecond (p : Profile) :
    p.atMillisecond.createdAt.date.year = p.createdAt.date.year := by
  rw [atMillisecond, Instant.date_cutToMillisecond]

/-- A profile that was made in whole milliseconds is kept as it is. -/
theorem atMillisecond_create
    (name : KeyName)
    (secret : String)
    (baseUrl : Option BaseUrl)
    (note : Option String)
    (now : Instant) :
    (create name secret baseUrl note now).atMillisecond = create name secret baseUrl note now := by
  simp [atMillisecond, create, make]

end Profile

namespace Collection

/-- What the key store keeps of a collection. -/
def atMillisecond (c : Collection) : Collection where
  keys := c.keys.map Profile.atMillisecond
  defaultName := c.defaultName
  names_nodup := by
    have hnames : (Profile.name ∘ Profile.atMillisecond) = Profile.name := rfl
    rw [List.map_map, hnames]
    exact c.names_nodup
  default_mem := by
    have hnames : (Profile.name ∘ Profile.atMillisecond) = Profile.name := rfl
    rw [List.map_map, hnames]
    exact c.default_mem

/-- Whether all keys were made in the years from 0 to 9999. -/
def InStoredRange (c : Collection) : Prop :=
  ∀ p ∈ c.keys, p.createdAt.InStoredRange

instance (c : Collection) : Decidable c.InStoredRange :=
  inferInstanceAs (Decidable (∀ p ∈ c.keys, p.createdAt.InStoredRange))

/-- A stored name can be made the default. -/
theorem setDefault?_of_mem
    {c : Collection}
    {name : KeyName}
    (h : name ∈ c.names) :
    ∃ c', c.setDefault? name = some c' ∧ c'.keys = c.keys ∧ c'.defaultName = some name := by
  obtain ⟨p, hp, hname⟩ := List.mem_map.1 h
  have hfind : (c.find? name).isSome = true := by
    rw [find?, List.find?_isSome]
    exact ⟨p, hp, by simp [hname]⟩
  unfold setDefault?
  split
  · exact ⟨_, rfl, rfl, rfl⟩
  · next hnone =>
      rw [hnone] at hfind
      cases hfind

/-- Collections are equal as soon as their keys and their defaults are. -/
theorem ext_parts
    {c c' : Collection}
    (hkeys : c.keys = c'.keys)
    (hdefault : c.defaultName = c'.defaultName) :
    c = c' := by
  obtain ⟨keys, defaultName, _, _⟩ := c
  obtain ⟨keys', defaultName', _, _⟩ := c'
  simp only at hkeys hdefault
  subst hkeys hdefault
  rfl

/-- A collection is made up of its keys and its default. -/
theorem ofParts_parts (c : Collection) :
    ofParts c.keys c.defaultName = .ok c := by
  unfold ofParts
  split
  · next name hrepeat =>
      have hnone : firstRepeat? [] (c.keys.map Profile.name) = none :=
        (firstRepeat?_eq_none_iff _ _).2 ⟨c.names_nodup, fun _ _ => List.not_mem_nil⟩
      rw [hnone] at hrepeat
      cases hrepeat
  · cases hdefault : c.defaultName with
    | none => exact congrArg Except.ok (ext_parts rfl hdefault.symm)
    | some name =>
        let undesignated : Collection := ⟨c.keys, none, c.names_nodup, by simp⟩
        have hmem : name ∈ undesignated.names := c.default_mem name hdefault
        obtain ⟨c', hset, hkeys, hname⟩ := setDefault?_of_mem hmem
        have hsame : c' = c := ext_parts hkeys (hname.trans hdefault.symm)
        rw [hsame] at hset
        simp only [undesignated] at hset
        simp only [hset]

end Collection

namespace Record

/-- The profiles of the entries of a collection are what is kept of its keys. -/
theorem profilesFrom_entries
    (index : Nat)
    {keys : List Profile}
    (h : ∀ p ∈ keys, p.createdAt.InStoredRange) :
    profilesFrom index (keys.map Profile.entry) = .ok (keys.map Profile.atMillisecond) := by
  induction keys generalizing index with
  | nil => rfl
  | cons p keys ih =>
      have hp := Profile.profile_entry (h p List.mem_cons_self)
      have hkeys := ih (index + 1) fun q hq => h q (List.mem_cons_of_mem p hq)
      simp only [List.map_cons, profilesFrom, hp, hkeys]

/-- Entries of which one is from before the year zero have no profiles. -/
theorem profilesFrom_entries_of_neg
    (index : Nat)
    {keys : List Profile}
    {p : Profile}
    (hp : p ∈ keys)
    (hyear : p.createdAt.date.year < 0) :
    ∃ fault, profilesFrom index (keys.map Profile.entry) = .error fault := by
  induction keys generalizing index with
  | nil => cases hp
  | cons q keys ih =>
      simp only [List.map_cons, profilesFrom]
      cases hq : q.entry.profile with
      | error fault => exact ⟨_, rfl⟩
      | ok profile =>
          rcases List.mem_cons.1 hp with rfl | hkeys
          · rw [Profile.profile_entry_of_neg hyear] at hq
            cases hq
          · obtain ⟨fault, hfault⟩ := ih (index + 1) hkeys
            exact ⟨fault, by simp only [hfault]⟩

/-- The record of a collection whose keys all have entries. -/
def ofEntries (c : Collection) : Record :=
  ⟨currentVersion, c.keys.map Profile.entry, (c.defaultName.map KeyName.value).getD ""⟩

/-- The default of a record is that of its collection. -/
theorem defaultName_ofEntries (c : Collection) :
    (ofEntries c).defaultName = .ok c.defaultName := by
  cases hdefault : c.defaultName with
  | none =>
      have hblank : Text.isBlankText "" = true := by decide
      simp [defaultName, ofEntries, hdefault, hblank]
  | some name => simp [defaultName, ofEntries, hdefault, Except.map]

/-- A collection has a record unless one of its keys was made after the greatest year. -/
theorem ofCollection?_eq (c : Collection) :
    ofCollection? c =
      if ∃ p ∈ c.keys, p.createdAt.date.year > Instant.greatestYear then none
      else some (ofEntries c) := by
  have hentries : ∀ keys : List Profile,
      keys.mapM StoredKey.ofProfile? =
        if ∃ p ∈ keys, p.createdAt.date.year > Instant.greatestYear then none
        else some (keys.map Profile.entry) := by
    intro keys
    induction keys with
    | nil => simp
    | cons p keys ih =>
        by_cases hp : p.createdAt.date.year > Instant.greatestYear
        · simp [List.mapM_cons, Profile.ofProfile?_eq, hp]
        · by_cases hkeys : ∃ q ∈ keys, q.createdAt.date.year > Instant.greatestYear
          · simp [List.mapM_cons, Profile.ofProfile?_eq, hp, ih, hkeys]
          · simp [List.mapM_cons, Profile.ofProfile?_eq, hp, ih, hkeys]
  rw [ofCollection?, hentries]
  split
  · rfl
  · rfl

end Record

namespace Vault

/-- A collection has a text unless one of its keys was made after the greatest year. -/
theorem toText?_eq (c : Collection) :
    toText? c =
      if ∃ p ∈ c.keys, p.createdAt.date.year > Instant.greatestYear then none
      else some (Record.ofEntries c).text := by
  rw [toText?, Record.ofCollection?_eq]
  split
  · rfl
  · rfl

/-- What is kept of a collection has the same text. -/
@[simp] theorem toText?_atMillisecond (c : Collection) :
    toText? c.atMillisecond = toText? c := by
  have hentries : Record.ofEntries c.atMillisecond = Record.ofEntries c := by
    simp [Record.ofEntries, Collection.atMillisecond]
  rw [toText?_eq, toText?_eq, hentries]
  simp [Collection.atMillisecond]

/-- The version that is written can be read. -/
theorem ofText_text_ofEntries (c : Collection) :
    Record.ofText (Record.ofEntries c).text = .ok (Record.ofEntries c) :=
  Record.ofText_text (show 1 < Nat.pow 2 32 by decide)

/-- The text of a collection is read as what is kept of it. -/
theorem ofText_toText?
    (v : Vault)
    {c : Collection}
    (h : c.InStoredRange) :
    ∃ text, toText? c = some text ∧ v.ofText text = .ok c.atMillisecond := by
  have hyears : ¬ ∃ p ∈ c.keys, p.createdAt.date.year > Instant.greatestYear := by
    rintro ⟨p, hp, hyear⟩
    exact absurd (h p hp).2 (Int.not_le.2 hyear)
  have hversion : ¬ (Record.ofEntries c).version > Record.currentVersion := Nat.lt_irrefl 1
  have hkeys : Record.profilesFrom 0 (Record.ofEntries c).keys =
      .ok (c.keys.map Profile.atMillisecond) := Record.profilesFrom_entries 0 h
  have hparts : Collection.ofParts (c.keys.map Profile.atMillisecond) c.defaultName =
      .ok c.atMillisecond := c.atMillisecond.ofParts_parts
  refine ⟨(Record.ofEntries c).text, ?_, ?_⟩
  · rw [toText?_eq, if_neg hyears]
  · simp only [ofText, ofText_text_ofEntries, Record.collection, hversion, if_false, hkeys,
      Record.defaultName_ofEntries, hparts]
    rfl

/-- The text of a collection with a key from before the year zero is refused. -/
theorem ofText_toText?_of_neg
    (v : Vault)
    {c : Collection}
    {p : Profile}
    {text : String}
    (htext : toText? c = some text)
    (hp : p ∈ c.keys)
    (hyear : p.createdAt.date.year < 0) :
    ∃ fault, v.ofText text = .error fault := by
  rw [toText?_eq] at htext
  split at htext
  · cases htext
  · cases htext
    have hversion : ¬ (Record.ofEntries c).version > Record.currentVersion := Nat.lt_irrefl 1
    obtain ⟨fault, hfault⟩ := Record.profilesFrom_entries_of_neg 0 hp hyear
    have hkeys : Record.profilesFrom 0 (Record.ofEntries c).keys = .error fault := hfault
    refine ⟨v.invalid fault, ?_⟩
    simp only [ofText, ofText_text_ofEntries, Record.collection, hversion, if_false, hkeys]
    rfl

end Vault
end Keyring
