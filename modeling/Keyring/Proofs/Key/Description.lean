import Mathlib.Data.List.Forall2
import Keyring.Command.Description
import Keyring.Proofs.Store.Reload

/-!
# Keys that have a description

A key is described by a value unless it was made after the greatest year, and by a line unless the year in
local time is no year of a date.  A collection is described by a value, and listed, exactly if all its keys
are.
-/

namespace Keyring

/-- Values can be collected exactly if they all exist. -/
theorem exists_mapM_iff
    {α β : Type}
    {f : α → Option β}
    {xs : List α} :
    (∃ ys, xs.mapM f = some ys) ↔ ∀ x ∈ xs, ∃ y, f x = some y := by
  induction xs with
  | nil => simp
  | cons x xs ih =>
      rw [List.forall_mem_cons, ← ih]
      cases hx : f x with
      | none => simp [List.mapM_cons, hx]
      | some y => cases hxs : xs.mapM f with
        | none => simp [List.mapM_cons, hx, hxs]
        | some ys => simp [List.mapM_cons, hx, hxs]

/-- Values that are collected are those of the elements in order. -/
theorem forall₂_of_mapM
    {α β : Type}
    {f : α → Option β}
    {xs : List α}
    {ys : List β}
    (h : xs.mapM f = some ys) :
    List.Forall₂ (fun x y => f x = some y) xs ys := by
  induction xs generalizing ys with
  | nil =>
      cases h
      exact .nil
  | cons x xs ih =>
      simp only [List.mapM_cons, Option.bind_eq_bind, Option.bind_eq_some_iff, Option.pure_def,
        Option.some.injEq] at h
      obtain ⟨y, hy, rest, hrest, rfl⟩ := h
      exact .cons hy (ih hrest)

namespace Profile

variable {p : Profile}

theorem exists_description?
    (h : p.createdAt.InStoredRange)
    (isDefault : Bool) :
    ∃ data, p.description? isDefault = some data := by
  have hyear : ¬ p.createdAt.date.year > Instant.greatestYear := Int.not_lt.2 h.2
  rw [description?, Instant.stored?_eq, if_neg hyear]
  exact ⟨_, rfl⟩

/-- A key has a line exactly if its creation time can be shown in local time. -/
theorem exists_line?_iff (offset : Offset) :
    (∃ line, p.line? offset = some line) ↔ p.createdAt.isDisplayable offset = true := by
  rw [← Option.isSome_iff_exists, line?, Option.isSome_map, Instant.displayed?]
  split
  · next h => simp [h]
  · next h => simp [h]

theorem line?_eq_none_iff (offset : Offset) :
    p.line? offset = none ↔ ¬ p.createdAt.isDisplayable offset = true := by
  rw [← exists_line?_iff, Option.eq_none_iff_forall_ne_some, not_exists]

end Profile

namespace Collection

variable {c : Collection}

theorem exists_description?
    (h : c.InStoredRange) :
    ∃ data, c.description? = some data := by
  have hkeys : ∀ p ∈ c.keys, ∃ data, p.description? (c.isDefault p.name) = some data :=
    fun p hp => Profile.exists_description? (h p hp) _
  obtain ⟨datas, hdatas⟩ := exists_mapM_iff.2 hkeys
  rw [description?, descriptions?, hdatas]
  exact ⟨_, rfl⟩

/-- Whether the creation times of all keys can be shown in local time. -/
def IsDisplayable (offset : Offset) (c : Collection) : Prop :=
  ∀ p ∈ c.keys, p.createdAt.isDisplayable offset = true

instance (offset : Offset) (c : Collection) : Decidable (c.IsDisplayable offset) :=
  inferInstanceAs (Decidable (∀ p ∈ c.keys, _))

/-- A collection can be listed exactly if all its creation times can be shown in local time. -/
theorem exists_listing?_iff (offset : Offset) :
    (∃ text, c.listing? offset = some text) ↔ c.IsDisplayable offset := by
  have hlines : (∃ lines, c.keys.mapM (c.markedLine? offset) = some lines) ↔
      c.IsDisplayable offset := by
    rw [exists_mapM_iff]
    refine forall₂_congr fun p _ => ?_
    rw [← Profile.exists_line?_iff, ← Option.isSome_iff_exists, ← Option.isSome_iff_exists,
      markedLine?, Option.isSome_map]
  rw [← hlines, listing?]
  split
  · next hempty =>
      have hkeys : c.keys = [] := List.isEmpty_iff.1 hempty
      exact ⟨fun _ => ⟨[], by rw [hkeys]; rfl⟩, fun _ => ⟨_, rfl⟩⟩
  · simp [← Option.isSome_iff_exists]

theorem listing?_eq_none_iff (offset : Offset) :
    c.listing? offset = none ↔ ¬ c.IsDisplayable offset := by
  rw [← exists_listing?_iff, Option.eq_none_iff_forall_ne_some, not_exists]

end Collection
end Keyring
