import Keyring.Key.Profile

/-!
# Collections of keys

A collection holds profiles under pairwise different names, in the order in which the names became
present, and it may designate one of them as the default.  Both facts are part of the type.

The first key of an empty collection becomes the default.  Later a default is only ever set by name;
removing it leaves none, and no other key takes its place.
-/

namespace Keyring

/-- Profiles with different names, and the name of the default if there is one. -/
structure Collection where
  keys : List Profile
  defaultName : Option KeyName
  names_nodup : (keys.map Profile.name).Nodup
  default_mem : ∀ n ∈ defaultName, n ∈ keys.map Profile.name
deriving DecidableEq

namespace Collection

/-- The first name that occurs a second time; `seen` holds the names before. -/
def firstRepeat? (seen : List KeyName) : List KeyName → Option KeyName
  | [] => none
  | n :: rest => if n ∈ seen then some n else firstRepeat? (n :: seen) rest

/-- No name occurs a second time exactly if the names differ from each other and from those seen
before. -/
theorem firstRepeat?_eq_none_iff (seen names : List KeyName) :
    firstRepeat? seen names = none ↔ names.Nodup ∧ ∀ n ∈ names, n ∉ seen := by
  induction names generalizing seen with
  | nil => simp [firstRepeat?]
  | cons n rest ih =>
      unfold firstRepeat?
      by_cases h : n ∈ seen
      · simp [h]
      · simp only [h, if_false, ih, List.nodup_cons, List.mem_cons, not_or]
        constructor
        · rintro ⟨hnodup, hseen⟩
          refine ⟨⟨fun hn => (hseen n hn).1 rfl, hnodup⟩, ?_⟩
          rintro m (rfl | hm)
          · exact h
          · exact (hseen m hm).2
        · rintro ⟨⟨hn, hnodup⟩, hseen⟩
          exact ⟨hnodup, fun m hm => ⟨fun e => hn (e ▸ hm), hseen m (.inr hm)⟩⟩

/-- Puts a profile in the place of the one with its name, or after all others. -/
def put (key : Profile) : List Profile → List Profile
  | [] => [key]
  | k :: rest => if k.name = key.name then key :: rest else k :: put key rest

/-- The names after a profile has been put. -/
theorem map_name_put (key : Profile) (keys : List Profile) :
    (put key keys).map Profile.name =
      if key.name ∈ keys.map Profile.name then keys.map Profile.name
      else keys.map Profile.name ++ [key.name] := by
  induction keys with
  | nil => rfl
  | cons k rest ih =>
      by_cases h : k.name = key.name
      · simp [put, h]
      · have h' : ¬ key.name = k.name := fun e => h e.symm
        simp only [put, h, if_false, List.map_cons, ih, List.mem_cons, h', false_or]
        split <;> simp

/-- Putting a profile keeps the names different. -/
theorem nodup_map_name_put (key : Profile) {keys : List Profile}
    (h : (keys.map Profile.name).Nodup) : ((put key keys).map Profile.name).Nodup := by
  rw [map_name_put]
  split
  · exact h
  · next hmem =>
      rw [List.nodup_append]
      refine ⟨h, by simp, ?_⟩
      intro a ha b hb
      rw [List.mem_singleton] at hb
      exact fun e => hmem (hb ▸ e ▸ ha)

/-- The name of a profile that has been put is present. -/
theorem name_mem_put (key : Profile) (keys : List Profile) :
    key.name ∈ (put key keys).map Profile.name := by
  rw [map_name_put]
  split
  · assumption
  · simp

/-- Names stay present when a profile is put. -/
theorem mem_put_of_mem (key : Profile) {keys : List Profile} {n : KeyName}
    (h : n ∈ keys.map Profile.name) : n ∈ (put key keys).map Profile.name := by
  rw [map_name_put]
  split
  · exact h
  · exact List.mem_append_left _ h

/-- Leaving profiles out keeps the names different. -/
theorem nodup_map_name_filter (p : Profile → Bool) {keys : List Profile}
    (h : (keys.map Profile.name).Nodup) : ((keys.filter p).map Profile.name).Nodup :=
  h.sublist (List.filter_sublist.map Profile.name)

/-- The collection without keys. -/
def empty : Collection :=
  ⟨[], none, List.nodup_nil, by simp⟩

instance : Inhabited Collection := ⟨empty⟩

/-- The names in order. -/
def names (c : Collection) : List KeyName :=
  c.keys.map Profile.name

/-- The number of keys. -/
def size (c : Collection) : Nat :=
  c.keys.length

/-- Whether there are no keys. -/
def isEmpty (c : Collection) : Bool :=
  c.keys.isEmpty

/-- The profile with a name. -/
def find? (c : Collection) (name : KeyName) : Option Profile :=
  c.keys.find? fun k => k.name == name

/-- The profile of the default. -/
def default? (c : Collection) : Option Profile :=
  c.defaultName.bind c.find?

/-- Whether a name is that of the default. -/
def isDefault (c : Collection) (name : KeyName) : Bool :=
  c.defaultName == some name

/-- The default after a key has been added. -/
def defaultAfterAdd (c : Collection) (key : Profile) : Option KeyName :=
  if c.isEmpty then some key.name else c.defaultName

/-- The collection with a key added, or put in the place of the one with its name. -/
def add (c : Collection) (key : Profile) : Collection where
  keys := put key c.keys
  defaultName := c.defaultAfterAdd key
  names_nodup := nodup_map_name_put key c.names_nodup
  default_mem := by
    intro n hn
    unfold defaultAfterAdd at hn
    split at hn
    · simp only [Option.mem_def, Option.some.injEq] at hn
      exact hn ▸ name_mem_put key c.keys
    · exact mem_put_of_mem key (c.default_mem n hn)

/-- The collection without the key of a name. -/
def remove (c : Collection) (name : KeyName) : Collection where
  keys := c.keys.filter fun k => k.name != name
  defaultName := if c.isDefault name then none else c.defaultName
  names_nodup := nodup_map_name_filter _ c.names_nodup
  default_mem := by
    intro n hn
    split at hn
    · simp at hn
    · next hdef =>
        obtain ⟨k, hk, rfl⟩ := List.mem_map.1 (c.default_mem n hn)
        refine List.mem_map.2 ⟨k, List.mem_filter.2 ⟨hk, ?_⟩, rfl⟩
        have hne : k.name ≠ name := fun e => hdef (by simp [isDefault, ← e, Option.mem_def.1 hn])
        simpa using hne

/-- Whether there is a key with a name. -/
def contains (c : Collection) (name : KeyName) : Bool :=
  (c.find? name).isSome

/-- A name that is found is one of the names. -/
theorem mem_names_of_find? {c : Collection} {name : KeyName} {p : Profile}
    (h : c.find? name = some p) : name ∈ c.keys.map Profile.name := by
  have hname := List.find?_some h
  exact List.mem_map.2 ⟨p, List.mem_of_find?_eq_some h, by simpa using hname⟩

/-- The collection with another default, if there is a key with that name. -/
def setDefault? (c : Collection) (name : KeyName) : Option Collection :=
  match h : c.find? name with
  | some _ =>
      some ⟨c.keys, some name, c.names_nodup, by
        intro n hn
        simp only [Option.mem_def, Option.some.injEq] at hn
        exact hn ▸ mem_names_of_find? h⟩
  | none => none

/-- Why profiles and a default do not make up a collection. -/
inductive PartsFault
  | repeated (name : KeyName)
  | dangling (name : KeyName)
deriving DecidableEq

/-- The failure of a command that is given such parts. -/
def PartsFault.failure : PartsFault → Failure
  | .repeated name => .validation ("duplicate key name '" ++ name.value ++ "'")
  | .dangling name => .keyNotFound name.value

/-- The collection of the given profiles, with the given default. -/
def ofParts (keys : List Profile) (defaultName : Option KeyName) :
    Except PartsFault Collection :=
  match h : firstRepeat? [] (keys.map Profile.name) with
  | some name => .error (.repeated name)
  | none =>
      let c : Collection :=
        ⟨keys, none, ((firstRepeat?_eq_none_iff _ _).1 h).1, by simp⟩
      match defaultName with
      | none => .ok c
      | some name =>
          match c.setDefault? name with
          | some c => .ok c
          | none => .error (.dangling name)

end Collection
end Keyring
