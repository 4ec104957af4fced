import Mathlib.Logic.Relation
import Keyring.Host.Machine
import Keyring.Proofs.File.Sight

/-!
# What programs leave of a machine

What programs do to the disk of a machine is up to them; the rest of the machine stays as it is.  Of most
programs it can be asked that they leave certain files alone.  What one program spares any number of them
spares: `Host.Machine.Worked.sameAt`.
-/

namespace Keyring
namespace Host

/-- Whether programs leave what a path leads to as it is. -/
def Programs.Spare (programs : Programs) (path : String) : Prop :=
  ∀ environment i d f d', programs environment i d = .ok (f, d') → Disk.SameAt path d d'

/-- No programs spare everything. -/
theorem spare_noPrograms (path : String) :
    Programs.Spare noPrograms path := by
  rintro environment i d f d' ⟨⟩

namespace Machine

/-- Whether a machine has become another by programs that have been started on it. -/
abbrev Worked : Machine → Machine → Prop :=
  Relation.ReflTransGen fun m m' => ∃ i, m' = (m.start i).2

/-- A program that is started leaves the machine alone, or leaves what it has made of the disk. -/
theorem start_cases
    (m : Machine)
    (i : Invocation) :
    (m.start i).2 = m ∨
      ∃ f disk, m.programs m.environment i m.disk = .ok (f, disk) ∧
        (m.start i).2 = { m with disk := disk } := by
  unfold start
  split
  · exact .inl rfl
  · split
    · exact .inl rfl
    · next f disk hprogram => exact .inr ⟨f, disk, hprogram, rfl⟩

namespace Worked

variable {m m' : Machine} {path : String}

theorem start
    (m : Machine)
    (i : Invocation) :
    Worked m (m.start i).2 :=
  .single ⟨i, rfl⟩

/-- Programs change nothing but the disk. -/
theorem eq_withDisk
    (h : Worked m m') :
    m' = { m with disk := m'.disk } := by
  induction h with
  | refl => rfl
  | @tail m₁ m₂ _ hstep ih =>
      obtain ⟨i, rfl⟩ := hstep
      rcases m₁.start_cases i with hsame | ⟨f, disk, -, hdisk⟩
      · rw [hsame]
        exact ih
      · rw [hdisk, ih]

theorem programs
    (h : Worked m m') :
    m'.programs = m.programs := by
  rw [h.eq_withDisk]

theorem sameAt
    (hspare : m.programs.Spare path)
    (h : Worked m m') :
    Disk.SameAt path m.disk m'.disk := by
  induction h with
  | refl => exact .refl path m.disk
  | @tail m₁ m₂ hbefore hstep ih =>
      obtain ⟨i, rfl⟩ := hstep
      refine ih.trans ?_
      rcases m₁.start_cases i with hsame | ⟨f, disk, hprogram, hdisk⟩
      · rw [hsame]
        exact .refl path m₁.disk
      · rw [hdisk]
        rw [Worked.programs hbefore] at hprogram
        exact hspare _ _ _ _ _ hprogram

end Worked
end Machine
end Host
end Keyring
