import Keyring.Proofs.Store.Change

/-!
# The keys besides one

A change of the key store concerns the key of one name.  What is kept of all others is the same for every
change: they stay in their order, and lose no more than the part of a millisecond in their creation times.
A key that is added or replaced comes after them.
-/

namespace Keyring

@[simp] theorem Profile.name_atMillisecond (p : Profile) :
    p.atMillisecond.name = p.name :=
  rfl

namespace Collection

variable {c c' after : Collection} {name n : KeyName} {key : Profile} {new : List Profile}

/-- What is kept of the keys of all names but one, in their order. -/
def others (c : Collection) (name : KeyName) : List Profile :=
  (c.keys.filter fun p => p.name != name).map Profile.atMillisecond

/-- The others of a name that is not there are all keys. -/
theorem others_of_not_mem
    (h : name ∉ c.names) :
    c.others name = c.atMillisecond.keys := by
  have hall : (c.keys.filter fun p => p.name != name) = c.keys := by
    refine List.filter_eq_self.2 fun p hp => ?_
    rw [bne_iff_ne]
    rintro rfl
    exact h (List.mem_map_of_mem hp)
  rw [others, hall]
  rfl

theorem map_name_others
    (c : Collection)
    (name : KeyName) :
    (c.others name).map Profile.name = c.names.filter (· != name) := by
  rw [others, List.map_map, names, List.filter_map]
  rfl

section Storing

theorem keys_atMillisecond (c : Collection) :
    c.atMillisecond.keys = c.keys.map Profile.atMillisecond :=
  rfl

theorem keys_of_remove
    (c : Collection)
    (name : KeyName) :
    (c.remove name).atMillisecond.keys = c.others name :=
  rfl

theorem keys_of_add
    (h : key.name ∉ c.names) :
    (c.add key).atMillisecond.keys = c.others key.name ++ [key.atMillisecond] := by
  have hput : (c.add key).keys = c.keys ++ [key] := put_of_not_mem h
  rw [others_of_not_mem h, keys_atMillisecond, keys_atMillisecond, hput, List.map_append]
  rfl

theorem keys_of_updated
    (h : Vault.updated c key = some c') :
    c'.atMillisecond.keys = c.others key.name ++ [key.atMillisecond] := by
  rw [keys_atMillisecond, (updated_eq_some h).1, List.map_append]
  rfl

end Storing

section Frame

/-- Every other name has what is kept of its key, whatever has become of the one. -/
theorem find?_of_others
    (hkeys : after.keys = c.others name ++ new)
    (hnew : ∀ p ∈ new, p.name = name)
    (hn : n ≠ name) :
    after.find? n = (c.find? n).map Profile.atMillisecond := by
  have hnone : (new.find? fun p => p.name == n) = none := by
    refine List.find?_eq_none.2 fun p hp hname => hn ?_
    rw [← hnew p hp, beq_iff_eq.1 hname]
  have hothers : ((c.others name).find? fun p => p.name == n) =
      (c.keys.find? fun p => p.name == n).map Profile.atMillisecond := by
    rw [others, List.find?_map, List.find?_filter]
    congr 2
    funext p
    by_cases hp : p.name = n
    · simp [Profile.atMillisecond, hp, hn]
    · simp [Profile.atMillisecond, hp]
  rw [find?, hkeys, List.find?_append, hnone, Option.or_none, hothers, find?]

theorem mem_names_of_others
    (hkeys : after.keys = c.others name ++ [key])
    (hname : key.name = name) :
    n ∈ after.names ↔ n ∈ c.names ∨ n = name := by
  rw [names, hkeys, List.map_append, List.mem_append, map_name_others, List.mem_filter, bne_iff_ne]
  by_cases hn : n = name
  · simp [hn, hname]
  · simp [hn, hname]

end Frame

end Collection

end Keyring
