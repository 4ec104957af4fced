import Mathlib.Data.List.Nodup
import Keyring.Json.Codec

/-!
# Members that override a value

The members of an object that is taken for a shape replace parts of the blank value, in any order.  What is
asked of a shape is that each member that it accepts stands for one such replacement
(`Shape.OverriddenBy`); then an object is taken exactly if no name occurs twice and all its members are
accepted, and all of them together have replaced what they name: `Shape.ofJson_object_eq_ok_iff`.
-/

namespace Keyring
namespace Json

section MemberOr

variable {β : Type} {members : List (String × Json)} {name name' : String} {read : Json → Option β}

/-- What the member of a name is read as, or another value if there is no such member. -/
def memberOr
    (members : List (String × Json))
    (name : String)
    (read : Json → Option β)
    (other : β) : β :=
  ((members.lookup name).bind read).getD other

@[simp] theorem memberOr_nil (other : β) :
    memberOr [] name read other = other :=
  rfl

/-- The first member of the name decides. -/
theorem memberOr_cons
    (v : Json)
    (other : β) :
    memberOr ((name', v) :: members) name read other =
      if name = name' then (read v).getD other else memberOr members name read other := by
  by_cases h : name = name'
  · simp [memberOr, h]
  · have hname : (name == name') = false := beq_false_of_ne h
    simp [memberOr, List.lookup_cons, hname, h]

theorem memberOr_of_not_mem
    (h : name ∉ members.map Prod.fst)
    (other : β) :
    memberOr members name read other = other := by
  have hnone : members.lookup name = none := by
    rw [List.lookup_eq_none_iff]
    intro m hm
    have hne : name ≠ m.1 := by
      rintro rfl
      exact h (List.mem_map_of_mem hm)
    simpa using hne
  rw [memberOr, hnone]
  rfl

end MemberOr

/-- Whether an object has members of given kinds, with no name twice. -/
structure MadeOf
    (accepts : String → Json → Prop)
    (members : List (String × Json)) : Prop where
  once : (members.map Prod.fst).Nodup
  accepted : ∀ m ∈ members, accepts m.1 m.2

theorem madeOf_cons
    {accepts : String → Json → Prop}
    {name : String}
    {v : Json}
    {members : List (String × Json)} :
    MadeOf accepts ((name, v) :: members) ↔
      name ∉ members.map Prod.fst ∧ accepts name v ∧ MadeOf accepts members := by
  constructor
  · rintro ⟨honce, haccepted⟩
    rw [List.map_cons, List.nodup_cons] at honce
    rw [List.forall_mem_cons] at haccepted
    exact ⟨honce.1, haccepted.1, honce.2, haccepted.2⟩
  · rintro ⟨hname, haccepts, honce, haccepted⟩
    exact ⟨List.nodup_cons.2 ⟨hname, honce⟩, List.forall_mem_cons.2 ⟨haccepts, haccepted⟩⟩

namespace Shape

variable {α : Type} {shape : Shape α} {accepts : String → Json → Prop}
  {overridden : α → List (String × Json) → α}

/-- Whether each member that a shape accepts stands for one replacement, and members that are put before
others of other names are replaced first. -/
structure OverriddenBy
    (shape : Shape α)
    (accepts : String → Json → Prop)
    (overridden : α → List (String × Json) → α) : Prop where
  closed : shape.closed = true
  complete : ∀ given, shape.missing? given = none
  nil : ∀ a, overridden a [] = a
  cons : ∀ name v, accepts name v →
    ∃ f store, shape.field? name = some f ∧ f.ofJson v = .ok store ∧
      ∀ a members, name ∉ members.map Prod.fst →
        overridden a ((name, v) :: members) = overridden (store a) members

/-- An object is taken exactly if its members are accepted and have names that differ from each other and
from those before, and then it has replaced what they name. -/
theorem ofMembers_eq_ok_iff
    (hover : shape.OverriddenBy accepts overridden)
    {members : List (String × Json)}
    (hsound : ∀ m ∈ members, ∀ f store, shape.field? m.1 = some f → f.ofJson m.2 = .ok store →
      accepts m.1 m.2)
    {given : List String}
    {a x : α} :
    shape.ofMembers given a members = .ok x ↔
      MadeOf accepts members ∧ (∀ m ∈ members, m.1 ∉ given) ∧ x = overridden a members := by
  induction members generalizing given a with
  | nil =>
      have hempty : MadeOf accepts [] := ⟨List.nodup_nil, fun m hm => absurd hm List.not_mem_nil⟩
      simp [ofMembers, hover.complete given, hover.nil a, hempty, eq_comm]
  | cons m members ih =>
      obtain ⟨name, v⟩ := m
      rw [List.forall_mem_cons] at hsound
      by_cases haccepts : accepts name v
      · obtain ⟨f, store, hfield, hstore, hstep⟩ := hover.cons name v haccepts
        by_cases hgiven : name ∈ given
        · simp [ofMembers, hfield, hgiven]
        · have hnames : (∀ m ∈ members, m.1 ∉ name :: given) ↔
              name ∉ members.map Prod.fst ∧ ∀ m ∈ members, m.1 ∉ given := by
            simp only [List.mem_cons, not_or, List.mem_map, not_exists, not_and]
            exact forall₂_and
          have hnext : shape.ofMembers given a ((name, v) :: members) =
              shape.ofMembers (name :: given) (store a) members := by
            simp [ofMembers, hfield, hgiven, hstore]
          rw [hnext, ih hsound.2, hnames, madeOf_cons, List.forall_mem_cons]
          constructor
          · rintro ⟨hmade, ⟨hname, hbefore⟩, rfl⟩
            exact ⟨⟨hname, haccepts, hmade⟩, ⟨hgiven, hbefore⟩, (hstep a members hname).symm⟩
          · rintro ⟨⟨hname, -, hmade⟩, ⟨-, hbefore⟩, rfl⟩
            exact ⟨hmade, ⟨hname, hbefore⟩, hstep a members hname⟩
      · have hnot : ¬ MadeOf accepts ((name, v) :: members) :=
          fun h => haccepts (h.accepted _ List.mem_cons_self)
        have hrefused : shape.ofMembers given a ((name, v) :: members) ≠ .ok x := by
          unfold ofMembers
          cases hfield : shape.field? name with
          | none => simp [hover.closed]
          | some f =>
              cases hstore : f.ofJson v with
              | ok store => exact absurd (hsound.1 f store hfield hstore) haccepts
              | error m =>
                  by_cases hgiven : name ∈ given
                  · simp [hgiven]
                  · simp [hgiven, hstore]
        simp [hrefused, hnot]

/-- An object is taken for the blank value that its members have overridden. -/
theorem ofJson_object_eq_ok_iff
    (hover : shape.OverriddenBy accepts overridden)
    {members : List (String × Json)}
    (hsound : ∀ m ∈ members, ∀ f store, shape.field? m.1 = some f → f.ofJson m.2 = .ok store →
      accepts m.1 m.2)
    {x : α} :
    shape.codec.ofJson (.object members) = .ok x ↔
      MadeOf accepts members ∧ x = overridden shape.blank members := by
  have htake : shape.codec.ofJson (.object members) = shape.ofMembers [] shape.blank members := rfl
  rw [htake, ofMembers_eq_ok_iff hover hsound]
  simp

end Shape

end Json
end Keyring
