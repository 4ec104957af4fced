import Keyring.Proofs.History
import Keyring.Proofs.Resolution

/-!
# The default and its history

A collection comes out of calls that add keys, remove them and choose the default.  A name that has become
the default stays the default until its key is removed or another name becomes the default, and nothing
else has a say in it.

* `Collection.defaultName_applied_iff` says this of one call;
* `Collection.designated_append_iff` takes a history apart at its last call;
* `Collection.defaultName_after` puts the two together by induction on the calls: the default of a
  collection is the name that its history designates.
-/

namespace Keyring
namespace Collection

/-- A call that changes a collection in memory. -/
inductive Call
  | add (key : Profile)
  | remove (name : KeyName)
  | setDefault (name : KeyName)

namespace Call

/-- Whether a call does what it says; otherwise it answers that there is no key of that name. -/
def Succeeds (c : Collection) : Call → Prop
  | add _ => True
  | remove name => c.contains name = true
  | setDefault name => (c.setDefault? name).isSome = true

/-- The collection after a call. -/
def applied (c : Collection) : Call → Collection
  | add key => c.add key
  | remove name => c.remove name
  | setDefault name => (c.setDefault? name).getD c

/-- Whether a call makes a name the default: by choosing it, or by adding it as the first key. -/
def Designates (c : Collection) (name : KeyName) : Call → Prop
  | add key => c.isEmpty = true ∧ key.name = name
  | remove _ => False
  | setDefault chosen => chosen = name ∧ (setDefault chosen).Succeeds c

/-- Whether a call takes the designation from a name: by removing its key, or by making another name the
default. -/
def Withdraws (c : Collection) (name : KeyName) (call : Call) : Prop :=
  (call = remove name ∧ call.Succeeds c) ∨ ∃ other, other ≠ name ∧ call.Designates c other

end Call

/-- The collection after calls one after the other, the first of which finds an empty one. -/
def ofCalls (calls : List Call) : Collection :=
  calls.foldl Call.applied empty

/-- Whether some call on the way from the empty collection has made a name the default, and no later one
has taken that from it. -/
def Designated (calls : List Call) (name : KeyName) : Prop :=
  ∃ before call later,
    calls = before ++ call :: later ∧
    call.Designates (ofCalls before) name ∧
    ∀ passed next rest, later = passed ++ next :: rest →
      ¬ next.Withdraws (ofCalls (before ++ call :: passed)) name

theorem ofCalls_append_singleton
    (calls : List Call)
    (call : Call) :
    ofCalls (calls ++ [call]) = call.applied (ofCalls calls) := by
  rw [ofCalls, List.foldl_append]
  rfl

section OneCall

variable {c : Collection} {name : KeyName}

theorem mem_names_of_defaultName
    (h : c.defaultName = some name) :
    name ∈ c.names :=
  c.default_mem name h

theorem names_of_isEmpty
    (h : c.isEmpty = true) :
    c.names = [] := by
  rw [isEmpty, List.isEmpty_iff] at h
  rw [names, h, List.map_nil]

/-- The default is found under its name. -/
theorem map_name_default?
    (c : Collection) :
    c.default?.map Profile.name = c.defaultName := by
  cases hname : c.defaultName with
  | none => rw [default?_eq_none_iff.2 hname, Option.map_none]
  | some name =>
      obtain ⟨key, hkey, rfl⟩ := List.mem_map.1 (mem_names_of_defaultName hname)
      rw [default?_eq_some_iff.2 ⟨hkey, hname⟩, Option.map_some]

section Add

variable {key : Profile}

theorem defaultName_add_of_isEmpty
    (h : c.isEmpty = true) :
    (c.add key).defaultName = some key.name :=
  if_pos h

theorem defaultName_add_of_not_isEmpty
    (h : ¬ c.isEmpty = true) :
    (c.add key).defaultName = c.defaultName :=
  if_neg h

/-- Adding a key whose name is there leaves the default. -/
theorem defaultName_add_of_mem
    (h : key.name ∈ c.names) :
    (c.add key).defaultName = c.defaultName := by
  apply defaultName_add_of_not_isEmpty
  intro hempty
  rw [names_of_isEmpty hempty] at h
  cases h

end Add

/-- Removing the default leaves none. -/
theorem defaultName_remove_self
    (h : c.defaultName = some name) :
    (c.remove name).defaultName = none := by
  change (if c.isDefault name then none else c.defaultName) = none
  rw [if_pos]
  rw [isDefault, h, beq_self_eq_true]

/-- Removing another key leaves the default. -/
theorem defaultName_remove_of_ne
    (h : c.defaultName ≠ some name) :
    (c.remove name).defaultName = c.defaultName := by
  change (if c.isDefault name then none else c.defaultName) = c.defaultName
  rw [if_neg]
  rwa [isDefault, beq_iff_eq]

/-- What one call does to the default. -/
theorem defaultName_applied_iff
    (c : Collection)
    (call : Call)
    (name : KeyName) :
    (call.applied c).defaultName = some name ↔
      call.Designates c name ∨ (c.defaultName = some name ∧ ¬ call.Withdraws c name) := by
  cases call with
  | add key =>
      by_cases hempty : c.isEmpty = true
      · have hother : c.defaultName ≠ some name := by
          intro hname
          have hmem := mem_names_of_defaultName hname
          rw [names_of_isEmpty hempty] at hmem
          cases hmem
        simp [Call.applied, Call.Designates, defaultName_add_of_isEmpty, hempty, hother]
      · simp [Call.applied, Call.Designates, Call.Withdraws, defaultName_add_of_not_isEmpty, hempty]
  | remove removed =>
      by_cases hremoved : c.defaultName = some removed
      · have hstored : c.contains removed = true := contains_iff.2 (mem_names_of_defaultName hremoved)
        simp [Call.applied, Call.Designates, Call.Withdraws, Call.Succeeds,
          defaultName_remove_self hremoved, hremoved, hstored]
      · change (c.remove removed).defaultName = some name ↔ False ∨ _
        rw [defaultName_remove_of_ne hremoved, false_or]
        constructor
        · intro hname
          refine ⟨hname, ?_⟩
          rintro (⟨hsame, -⟩ | ⟨other, -, hdesignates⟩)
          · cases hsame
            exact hremoved hname
          · exact hdesignates
        · exact And.left
  | setDefault chosen =>
      cases hset : c.setDefault? chosen with
      | none => simp [Call.applied, Call.Designates, Call.Withdraws, Call.Succeeds, hset]
      | some c' =>
          have hname : c'.defaultName = some chosen := (setDefault?_eq_some hset).2
          simp [Call.applied, Call.Designates, Call.Withdraws, Call.Succeeds, hset, hname]

/-- A call that does not succeed changes nothing. -/
theorem applied_of_not_succeeds
    {call : Call}
    (h : ¬ call.Succeeds c) :
    call.applied c = c := by
  cases call with
  | add key => exact absurd trivial h
  | remove name =>
      have habsent : name ∉ c.names := fun hmem => h (contains_iff.2 hmem)
      have hkeys : (c.remove name).keys = c.keys := by
        refine List.filter_eq_self.2 fun p hp => ?_
        have hne : p.name ≠ name := fun e => habsent (e ▸ List.mem_map_of_mem hp)
        simpa using hne
      exact ext_parts hkeys (defaultName_remove_of_ne fun hname => habsent (mem_names_of_defaultName hname))
  | setDefault name =>
      have hnone : c.setDefault? name = none := by
        simpa [Call.Succeeds] using h
      simp [Call.applied, hnone]

end OneCall

/-- A name is designated by a history if its last call designates it, or if it was designated before and the
last call leaves it that. -/
theorem designated_append_iff
    (calls : List Call)
    (call : Call)
    (name : KeyName) :
    Designated (calls ++ [call]) name ↔
      call.Designates (ofCalls calls) name ∨
        (Designated calls name ∧ ¬ call.Withdraws (ofCalls calls) name) :=
  History.since_append_iff (fun before => Call.Designates (ofCalls before) name)
    (fun passed => Call.Withdraws (ofCalls passed) name) calls call

theorem not_designated_nil (name : KeyName) :
    ¬ Designated [] name :=
  History.not_since_nil (fun before => Call.Designates (ofCalls before) name)
    fun passed => Call.Withdraws (ofCalls passed) name

/-- After calls that start with an empty collection, the default is the name that their history
designates. -/
theorem defaultName_eq_some_iff_designated
    (calls : List Call)
    (name : KeyName) :
    (ofCalls calls).defaultName = some name ↔ Designated calls name := by
  induction calls using List.reverseRecOn generalizing name with
  | nil => exact iff_of_false (by simp [ofCalls, empty]) (not_designated_nil name)
  | append_singleton calls call ih =>
      rw [ofCalls_append_singleton, defaultName_applied_iff, ih, designated_append_iff]

/-- After calls that start with an empty collection, the default is the name that their history
designates.  It is a stored key and found as such; removing another key and adding one whose name is there
leave it alone, and a call that does not succeed leaves the whole collection alone. -/
theorem defaultName_after
    (calls : List Call) :
    (∀ name, (ofCalls calls).defaultName = some name ↔ Designated calls name) ∧
      (∀ name, (ofCalls calls).defaultName = some name → name ∈ (ofCalls calls).names) ∧
      (ofCalls calls).default?.map Profile.name = (ofCalls calls).defaultName ∧
      (∀ name, (ofCalls calls).defaultName ≠ some name →
        ((ofCalls calls).remove name).defaultName = (ofCalls calls).defaultName) ∧
      (∀ key, key.name ∈ (ofCalls calls).names →
        ((ofCalls calls).add key).defaultName = (ofCalls calls).defaultName) ∧
      ∀ call : Call, ¬ call.Succeeds (ofCalls calls) → call.applied (ofCalls calls) = ofCalls calls :=
  ⟨defaultName_eq_some_iff_designated calls, fun _ => mem_names_of_defaultName, map_name_default? _,
    fun _ => defaultName_remove_of_ne, fun _ => defaultName_add_of_mem, fun _ => applied_of_not_succeeds⟩

end Collection
end Keyring
