import Keyring.Proofs.Store.Change

/-!
# Sound keys

A key is sound if it could have been given on the command line: its secret is trimmed and not empty, and so
is its note if it has one.  Its creation time is one that the key store keeps as it is.  That a base URL is
trimmed, not empty and accepted needs no condition; it is part of the type.

A collection of sound keys is stored and loaded without any loss, and every change of the key store keeps
it sound.
-/

namespace Keyring

namespace Text

/-- Whether a text is not empty and has no blanks at its ends. -/
def IsFilled (s : String) : Prop :=
  trimmed s = s ∧ s ≠ ""

theorem isFilled_of_normalized?
    {raw kept : String}
    (h : normalized? raw = some kept) :
    IsFilled kept := by
  unfold normalized? at h
  simp only at h
  split at h
  · cases h
  · next hempty =>
      cases h
      refine ⟨trimmed_trimmed raw, ?_⟩
      intro heq
      rw [heq] at hempty
      exact hempty rfl

end Text

/-- Whether a key could have been given on the command line. -/
structure Profile.Sound (p : Profile) : Prop where
  secret : Text.IsFilled p.secret
  note : ∀ note ∈ p.note, Text.IsFilled note
  createdAt : p.createdAt.InStoredRange
  milliseconds : p.createdAt.cutToMillisecond = p.createdAt

namespace Profile

/-- A base URL of a key is trimmed, not empty, and accepted. -/
theorem sound_baseUrl
    {p : Profile}
    {url : BaseUrl}
    (h : url ∈ p.baseUrl) :
    Text.IsFilled url.value ∧ Url.fault? url.value = none := by
  have hnonempty := p.baseUrl_nonempty
  rw [Option.mem_def.1 h, Option.all_some, BaseUrl.isEmpty, Bool.not_eq_true'] at hnonempty
  refine ⟨⟨url.trimmed, ?_⟩, ?_⟩
  · intro heq
    rw [heq] at hnonempty
    cases hnonempty
  · rcases url.accepted with hempty | haccepted
    · rw [hempty] at hnonempty
      cases hnonempty
    · exact haccepted

namespace Sound

variable {p : Profile}

theorem create
    (name : KeyName)
    {secret : String}
    (baseUrl : Option BaseUrl)
    (note : Option String)
    {now : Instant}
    (hsecret : Text.IsFilled secret)
    (hnow : now.InStoredRange) :
    (Profile.create name secret baseUrl (note.bind Text.normalized?) now).Sound where
  secret := hsecret
  note := by
    intro kept hkept
    obtain ⟨raw, -, hnormalized⟩ := Option.bind_eq_some_iff.1 hkept
    exact Text.isFilled_of_normalized? hnormalized
  createdAt := hnow.cutToMillisecond
  milliseconds := now.cutToMillisecond_cutToMillisecond

theorem withSecret
    (h : p.Sound)
    {secret : String}
    (hsecret : Text.IsFilled secret) :
    (p.withSecret secret).Sound where
  secret := hsecret
  note := h.note
  createdAt := h.createdAt
  milliseconds := h.milliseconds

theorem withBaseUrl
    (h : p.Sound)
    (baseUrl : Option BaseUrl) :
    (p.withBaseUrl baseUrl).Sound where
  secret := h.secret
  note := h.note
  createdAt := h.createdAt
  milliseconds := h.milliseconds

theorem withNote
    (h : p.Sound)
    {note : Option String}
    (hnote : ∀ kept ∈ note, Text.IsFilled kept) :
    (p.withNote note).Sound where
  secret := h.secret
  note := hnote
  createdAt := h.createdAt
  milliseconds := h.milliseconds

/-- A sound key is kept as it is. -/
theorem atMillisecond_eq
    (h : p.Sound) :
    p.atMillisecond = p := by
  simp only [Profile.atMillisecond, h.milliseconds]

end Sound
end Profile

/-- Whether all keys of a collection are sound. -/
def Collection.Sound (c : Collection) : Prop :=
  ∀ p ∈ c.keys, p.Sound

namespace Collection.Sound

variable {c c' : Collection} {key : Profile} {name : KeyName}

theorem empty : Collection.empty.Sound := by
  intro p hp
  cases hp

theorem inStoredRange (h : c.Sound) : c.InStoredRange :=
  fun p hp => (h p hp).createdAt

/-- A sound collection is kept as it is. -/
theorem atMillisecond_eq
    (h : c.Sound) :
    c.atMillisecond = c := by
  have hkeys : c.keys.map Profile.atMillisecond = c.keys.map id :=
    List.map_congr_left fun p hp => (h p hp).atMillisecond_eq
  rw [List.map_id] at hkeys
  exact ext_parts hkeys rfl

theorem add
    (h : c.Sound)
    (hkey : key.Sound) :
    (c.add key).Sound := by
  intro p hp
  rcases mem_of_mem_put hp with hold | rfl
  · exact h p hold
  · exact hkey

theorem remove
    (h : c.Sound)
    (name : KeyName) :
    (c.remove name).Sound :=
  fun p hp => h p (List.mem_filter.1 hp).1

theorem setDefault?
    (h : c.Sound)
    (hset : c.setDefault? name = some c') :
    c'.Sound := by
  intro p hp
  rw [(setDefault?_eq_some hset).1] at hp
  exact h p hp

theorem updated
    (h : c.Sound)
    (hkey : key.Sound)
    (hupdated : Vault.updated c key = some c') :
    c'.Sound := by
  intro p hp
  rw [(updated_eq_some hupdated).1, List.mem_append, List.mem_singleton] at hp
  rcases hp with hold | rfl
  · exact h p (List.mem_filter.1 hold).1
  · exact hkey

theorem of_find?
    (h : c.Sound)
    (hfind : c.find? name = some key) :
    key.Sound :=
  h key (List.mem_of_find?_eq_some hfind)

end Collection.Sound

namespace Vault

/-- The text of a sound collection is read as that collection. -/
theorem ofText_toText?_of_sound
    (v : Vault)
    {c : Collection}
    (h : c.Sound) :
    ∃ text, toText? c = some text ∧ v.ofText text = .ok c := by
  obtain ⟨text, htext, hread⟩ := v.ofText_toText? h.inStoredRange
  rw [h.atMillisecond_eq] at hread
  exact ⟨text, htext, hread⟩

end Vault
end Keyring
