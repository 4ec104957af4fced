import Mathlib.Data.List.Induction

/-!
# Histories

A history is a list of calls, each of which finds what the calls before it have left.  Two things are said
about histories elsewhere: that some kind of call has never come, and that a call of one kind has come and
none of another kind since.  What kind a call is of may depend on the calls before it.

Both can be decided at the last call (`History.never_append_iff`, `History.since_append_iff`), so that a
statement about whole runs follows from one about a single call by induction from the right.
-/

namespace Keyring
namespace History

variable {α : Type}

/-- Whether no call of a history is of a given kind. -/
def Never
    (undone : List α → α → Prop)
    (calls : List α) :
    Prop :=
  ∀ passed next rest, calls = passed ++ next :: rest → ¬ undone passed next

/-- Whether some call of a history is of one kind and no later one of another. -/
def Since
    (done undone : List α → α → Prop)
    (calls : List α) :
    Prop :=
  ∃ before call later,
    calls = before ++ call :: later ∧
    done before call ∧
    Never (fun passed => undone (before ++ call :: passed)) later

theorem never_nil
    (undone : List α → α → Prop) :
    Never undone [] := by
  intro passed next rest hcalls
  exact absurd hcalls.symm (by simp)

theorem not_since_nil
    (done undone : List α → α → Prop) :
    ¬ Since done undone [] := by
  rintro ⟨before, call, later, hcalls, -⟩
  exact absurd hcalls.symm (by simp)

/-- A call has never come if it has not before and is not the last one. -/
theorem never_append_iff
    (undone : List α → α → Prop)
    (calls : List α)
    (call : α) :
    Never undone (calls ++ [call]) ↔ Never undone calls ∧ ¬ undone calls call := by
  constructor
  · intro h
    refine ⟨?_, h calls call [] rfl⟩
    rintro passed next rest rfl
    exact h passed next (rest ++ [call]) (by simp)
  · rintro ⟨hcalls, hlast⟩ passed next rest hsplit
    rcases rest.eq_nil_or_concat with rfl | ⟨rest', last, rfl⟩
    · obtain ⟨rfl, hnext⟩ := List.append_inj' hsplit rfl
      cases hnext
      exact hlast
    · have hshorter : calls ++ [call] = (passed ++ next :: rest') ++ [last] := by
        rw [hsplit, List.concat_eq_append, List.append_assoc, List.cons_append]
      exact hcalls passed next rest' (List.append_inj' hshorter rfl).1

/-- Something is done and not undone since if the last call does it, or if it was so before and the last
call does not undo it. -/
theorem since_append_iff
    (done undone : List α → α → Prop)
    (calls : List α)
    (call : α) :
    Since done undone (calls ++ [call]) ↔
      done calls call ∨ (Since done undone calls ∧ ¬ undone calls call) := by
  constructor
  · rintro ⟨before, made, later, hcalls, hmade, hkept⟩
    rcases later.eq_nil_or_concat with rfl | ⟨later', last, rfl⟩
    · obtain ⟨rfl, hlast⟩ := List.append_inj' hcalls rfl
      cases hlast
      exact .inl hmade
    · rw [List.concat_eq_append] at hcalls hkept
      have hsplit : calls ++ [call] = (before ++ made :: later') ++ [last] := by
        rw [hcalls, List.append_assoc, List.cons_append]
      obtain ⟨rfl, hlast⟩ := List.append_inj' hsplit rfl
      cases hlast
      obtain ⟨hearlier, hlast⟩ := (never_append_iff _ later' call).1 hkept
      exact .inr ⟨⟨before, made, later', rfl, hmade, hearlier⟩, hlast⟩
  · rintro (hmade | ⟨⟨before, made, later, rfl, hmade, hkept⟩, hlast⟩)
    · exact ⟨calls, call, [], rfl, hmade, never_nil _⟩
    · refine ⟨before, made, later ++ [call], by simp, hmade, ?_⟩
      exact (never_append_iff _ later call).2 ⟨hkept, hlast⟩

end History
end Keyring
