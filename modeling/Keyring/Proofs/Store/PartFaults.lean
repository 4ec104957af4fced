import Keyring.Proofs.Store.Origin

/-!
# Faults of entries and of parts

What `StoredKey.profile` and `Collection.ofParts` accept and which fault each of them reports, with the
fields and the names as they are and without the order of the checks.
-/

namespace Keyring

theorem KeyName.value_injective :
    Function.Injective KeyName.value := by
  rintro ⟨a, -, -⟩ ⟨b, -, -⟩ rfl
  rfl

/-- A text that is read as a name is not blank. -/
theorem KeyName.isBlankText_of_ofText
    {raw : String}
    {n : KeyName}
    (h : ofText raw = .ok n) :
    Text.isBlankText raw = false := by
  rw [Bool.eq_false_iff, Ne, Text.isBlankText_iff, KeyName.ofText_eq_ok_iff.1 h]
  intro hempty
  exact n.nonempty (by rw [hempty]; rfl)

namespace StoredKey

/-- Whether the fields of an entry are accepted. -/
structure Valid (k : StoredKey) : Prop where
  name : ∃ n, KeyName.ofText k.name = .ok n
  baseUrl : ∀ raw ∈ k.baseUrl, ∃ u, BaseUrl.ofText raw = .ok u
  createdAt : ∃ t, Time.readTimestamp k.createdAt = .ok t

/-- Whether a profile is the one that an entry stands for: a blank base URL is none. -/
structure Describes (k : StoredKey) (p : Profile) : Prop where
  name : p.name.value = Text.trimmed k.name
  secret : p.secret = k.key
  baseUrl : p.baseUrlText = k.baseUrl.bind Text.normalized?
  note : p.note = k.note
  createdAt : Time.readTimestamp k.createdAt = .ok p.createdAt

/-- The fault of an entry that is reported: of its name, else of its base URL, else of its creation time. -/
inductive FirstFault (k : StoredKey) : Fault → Prop
  | name
      {fault : NameFault}
      (hfault : KeyName.ofText k.name = .error fault) :
      FirstFault k (.name fault)
  | baseUrl
      {raw : String}
      {fault : BaseUrlFault}
      (hname : ∃ n, KeyName.ofText k.name = .ok n)
      (hraw : k.baseUrl = some raw)
      (hfault : BaseUrl.ofText raw = .error fault) :
      FirstFault k (.baseUrl fault)
  | createdAt
      {fault : Time.TimestampFault}
      (hname : ∃ n, KeyName.ofText k.name = .ok n)
      (hbaseUrl : ∀ raw ∈ k.baseUrl, ∃ u, BaseUrl.ofText raw = .ok u)
      (hfault : Time.readTimestamp k.createdAt = .error fault) :
      FirstFault k (.createdAt k.createdAt fault)

variable {k : StoredKey}

theorem exists_endpoint_iff :
    (∃ url, k.endpoint = .ok url) ↔ ∀ raw ∈ k.baseUrl, ∃ u, BaseUrl.ofText raw = .ok u := by
  unfold endpoint
  cases hraw : k.baseUrl with
  | none => simp
  | some raw =>
      cases hread : BaseUrl.ofText raw with
      | error fault => simp [hread, Except.map]
      | ok u => simp [hread, Except.map]

theorem endpoint_eq_error_iff
    {fault : BaseUrlFault} :
    k.endpoint = .error fault ↔ ∃ raw, k.baseUrl = some raw ∧ BaseUrl.ofText raw = .error fault := by
  unfold endpoint
  cases hraw : k.baseUrl with
  | none => simp
  | some raw =>
      cases hread : BaseUrl.ofText raw with
      | error fault => simp [hread, Except.map]
      | ok u => simp [hread, Except.map]

theorem profile_eq_error_iff
    {f : Fault} :
    k.profile = .error f ↔ k.FirstFault f := by
  constructor
  · intro h
    unfold profile at h
    split at h
    · next fault hname =>
        cases h
        exact .name hname
    · next n hname =>
        split at h
        · next fault hurl =>
            cases h
            obtain ⟨raw, hraw, hread⟩ := endpoint_eq_error_iff.1 hurl
            exact .baseUrl ⟨n, hname⟩ hraw hread
        · next url hurl =>
            split at h
            · next fault htime =>
                cases h
                exact .createdAt ⟨n, hname⟩ (exists_endpoint_iff.1 ⟨url, hurl⟩) htime
            · cases h
  · intro hrule
    cases hrule with
    | name hfault => simp [profile, hfault]
    | baseUrl hname hraw hfault =>
        obtain ⟨n, hname⟩ := hname
        have hurl := endpoint_eq_error_iff.2 ⟨_, hraw, hfault⟩
        simp [profile, hname, hurl]
    | createdAt hname hbaseUrl hfault =>
        obtain ⟨n, hname⟩ := hname
        obtain ⟨url, hurl⟩ := exists_endpoint_iff.2 hbaseUrl
        simp [profile, hname, hurl, hfault]

/-- An entry is read as a profile if each of its fields is read. -/
theorem profile_eq_ok_iff
    {p : Profile} :
    k.profile = .ok p ↔
      ∃ n url t, KeyName.ofText k.name = .ok n ∧ k.endpoint = .ok url ∧
        Time.readTimestamp k.createdAt = .ok t ∧ .make n k.key url k.note t = p := by
  unfold profile
  cases hname : KeyName.ofText k.name with
  | error fault => simp
  | ok n =>
      cases hurl : k.endpoint with
      | error fault => simp
      | ok url =>
          cases htime : Time.readTimestamp k.createdAt with
          | error fault => simp
          | ok t => simp

theorem exists_profile_iff :
    (∃ p, k.profile = .ok p) ↔ k.Valid := by
  constructor
  · rintro ⟨p, h⟩
    obtain ⟨n, url, t, hname, hurl, htime, -⟩ := profile_eq_ok_iff.1 h
    exact ⟨⟨n, hname⟩, exists_endpoint_iff.1 ⟨url, hurl⟩, ⟨t, htime⟩⟩
  · rintro ⟨⟨n, hname⟩, hbaseUrl, ⟨t, htime⟩⟩
    obtain ⟨url, hurl⟩ := exists_endpoint_iff.2 hbaseUrl
    exact ⟨_, profile_eq_ok_iff.2 ⟨n, url, t, hname, hurl, htime, rfl⟩⟩

theorem describes_of_profile
    {p : Profile}
    (h : k.profile = .ok p) :
    k.Describes p := by
  obtain ⟨n, url, t, hname, hurl, htime, rfl⟩ := profile_eq_ok_iff.1 h
  exact ⟨(KeyName.ofText_eq_ok_iff.1 hname).symm, rfl, baseUrlText_of_endpoint hurl, rfl, htime⟩

end StoredKey

namespace Collection

section FirstRepeat

variable {seen names : List KeyName} {n : KeyName}

/-- The name that is reported as repeated is the first one that occurs a second time. -/
theorem firstRepeat?_eq_some_iff :
    firstRepeat? seen names = some n ↔
      ∃ before after, names = before ++ n :: after ∧ before.Nodup ∧ (∀ m ∈ before, m ∉ seen) ∧
        (n ∈ seen ∨ n ∈ before) := by
  induction names generalizing seen with
  | nil => simp [firstRepeat?]
  | cons m rest ih =>
      unfold firstRepeat?
      by_cases hm : m ∈ seen
      · rw [if_pos hm, Option.some_inj]
        constructor
        · rintro rfl
          exact ⟨[], rest, rfl, List.nodup_nil, by simp, .inl hm⟩
        · rintro ⟨before, after, hsplit, -, hnew, -⟩
          cases before with
          | nil => exact (List.cons.inj hsplit).1
          | cons b before =>
              obtain ⟨rfl, -⟩ := List.cons.inj hsplit
              exact absurd hm (hnew m List.mem_cons_self)
      · rw [if_neg hm, ih]
        constructor
        · rintro ⟨before, after, rfl, hnodup, hnew, hrepeated⟩
          refine ⟨m :: before, after, rfl, ?_, ?_, ?_⟩
          · exact List.nodup_cons.2 ⟨fun hmem => hnew m hmem List.mem_cons_self, hnodup⟩
          · rw [List.forall_mem_cons]
            exact ⟨hm, fun b hb hseen => hnew b hb (List.mem_cons_of_mem m hseen)⟩
          · rw [List.mem_cons] at hrepeated ⊢
            tauto
        · rintro ⟨before, after, hsplit, hnodup, hnew, hrepeated⟩
          cases before with
          | nil =>
              obtain ⟨rfl, -⟩ := List.cons.inj hsplit
              exact absurd hrepeated (by simp [hm])
          | cons b before =>
              obtain ⟨rfl, rfl⟩ := List.cons.inj hsplit
              rw [List.nodup_cons] at hnodup
              rw [List.forall_mem_cons] at hnew
              refine ⟨before, after, rfl, hnodup.2, ?_, ?_⟩
              · intro b hb
                rw [List.mem_cons, not_or]
                exact ⟨fun e => hnodup.1 (e ▸ hb), hnew.2 b hb⟩
              · rw [List.mem_cons] at hrepeated ⊢
                tauto

end FirstRepeat

section OfParts

variable {keys : List Profile} {defaultName : Option KeyName}

theorem ofParts_eq_ok_iff
    {c : Collection} :
    ofParts keys defaultName = .ok c ↔ c.keys = keys ∧ c.defaultName = defaultName := by
  constructor
  · intro h
    refine ⟨Record.keys_of_ofParts h, ?_⟩
    unfold ofParts at h
    split at h
    · cases h
    · simp only at h
      split at h
      · cases h
        rfl
      · split at h
        · next hset =>
            cases h
            exact (setDefault?_eq_some hset).2
        · cases h
  · rintro ⟨rfl, rfl⟩
    exact ofParts_parts c

theorem ofParts_eq_error_of_repeat
    {n : KeyName}
    (h : firstRepeat? [] (keys.map Profile.name) = some n) :
    ofParts keys defaultName = .error (.repeated n) := by
  unfold ofParts
  split
  · next m hm =>
      rw [h] at hm
      cases hm
      rfl
  · next hnone =>
      rw [h] at hnone
      cases hnone

theorem ofParts_eq_error_of_dangling
    {n : KeyName}
    (hnodup : (keys.map Profile.name).Nodup)
    (hdangling : n ∉ keys.map Profile.name) :
    ofParts keys (some n) = .error (.dangling n) := by
  cases hparts : ofParts keys (some n) with
  | ok c =>
      obtain ⟨rfl, hdefault⟩ := ofParts_eq_ok_iff.1 hparts
      exact absurd (c.default_mem n hdefault) hdangling
  | error fault =>
      unfold ofParts at hparts
      split at hparts
      · next m hm =>
          have hnone : firstRepeat? [] (keys.map Profile.name) = none :=
            (firstRepeat?_eq_none_iff _ _).2 ⟨hnodup, fun _ _ => List.not_mem_nil⟩
          rw [hnone] at hm
          cases hm
      · simp only at hparts
        split at hparts
        · cases hparts
        · cases hparts
          rfl

/-- Profiles make up no collection if two share a name, or else if the default is none of them. -/
theorem ofParts_eq_error_iff
    {fault : PartsFault} :
    ofParts keys defaultName = .error fault ↔
      (∃ n, firstRepeat? [] (keys.map Profile.name) = some n ∧ fault = .repeated n) ∨
        ((keys.map Profile.name).Nodup ∧
          ∃ n, defaultName = some n ∧ n ∉ keys.map Profile.name ∧ fault = .dangling n) := by
  constructor
  · intro h
    cases hrepeat : firstRepeat? [] (keys.map Profile.name) with
    | some n =>
        rw [ofParts_eq_error_of_repeat hrepeat] at h
        cases h
        exact .inl ⟨n, rfl, rfl⟩
    | none =>
        have hnodup := ((firstRepeat?_eq_none_iff _ _).1 hrepeat).1
        refine .inr ⟨hnodup, ?_⟩
        cases defaultName with
        | none =>
            rw [ofParts_eq_ok_iff (c := ⟨keys, none, hnodup, by simp⟩) |>.2 ⟨rfl, rfl⟩] at h
            cases h
        | some n =>
            by_cases hmem : n ∈ keys.map Profile.name
            · let c : Collection := ⟨keys, some n, hnodup, by simpa using hmem⟩
              rw [ofParts_eq_ok_iff (c := c) |>.2 ⟨rfl, rfl⟩] at h
              cases h
            · rw [ofParts_eq_error_of_dangling hnodup hmem] at h
              cases h
              exact ⟨n, rfl, hmem, rfl⟩
  · rintro (⟨n, hrepeat, rfl⟩ | ⟨hnodup, n, rfl, hdangling, rfl⟩)
    · exact ofParts_eq_error_of_repeat hrepeat
    · exact ofParts_eq_error_of_dangling hnodup hdangling

end OfParts
end Collection
end Keyring
