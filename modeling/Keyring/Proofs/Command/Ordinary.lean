import Keyring.Proofs.Command.Effect
import Keyring.Proofs.Command.Footprint
import Keyring.Proofs.Command.Unreadable
import Keyring.Proofs.Session

/-!
# Sessions in which no call fails

A command of a session is ordinary if its clock is in range, the files of the key store and the marker have
been left alone in the meantime, programs that it starts spare them, and on disk every text can be stored.
For files in memory only the clock counts.

What an ordinary command does to files is one of the five things of `Context.Effect`, or nothing at all if
there is a key store that cannot be loaded: `Turn.affected_or_kept`.  What each of its commands keeps holds
throughout an ordinary session: `Session.invariant`.
-/

namespace Keyring

open Keyring.Action (Ensures)
open World (Idle KeepsFile Rests SameSetting)

namespace Context

variable {c : Context} {keys : Collection} {w₀ w w' : World}

/-- Whatever a command makes of the files, the same calls fail afterwards. -/
theorem Effect.sameSetting
    (h : c.Effect keys w₀ w) :
    SameSetting w₀ w := by
  cases h with
  | untouched hrests => exact .of_rests hrests
  | stored hnames hsound hsaved => exact hsaved.sameSetting
  | removed hsaved hother => exact hsaved.sameSetting
  | forgotten hsaved hmarked => exact hsaved.sameSetting.trans (c.marker.sameSetting_clear _)
  | remembered hname hidle => exact (sameSetting_of_idle hidle).trans (World.sameSetting_of_write rfl)

/-- What programs do last to a file that they spare is nothing. -/
theorem Affected.exists_effect
    (h : c.Affected keys w₀ w) :
    ∃ w₁, c.Effect keys w₀ w₁ ∧ ∀ path, w₀.Spares path → KeepsFile path w₁ w := by
  obtain ⟨w₁, heffect, hmemory, hmachine⟩ := h
  exact ⟨w₁, heffect, fun path hspare => .of_worked (heffect.sameSetting.spares hspare) hmemory hmachine⟩

theorem Refused.keepsFile
    {path : String}
    (hspare : w.Spares path)
    (h : Refused w w') :
    KeepsFile path w w' := by
  rcases h with hrests | hidle
  · exact .of_rests hrests
  · exact keepsFile_of_idle hspare hidle

theorem Refused.launches
    (h : Refused w w') :
    w'.launches = w.launches := by
  rcases h with hrests | hidle
  · exact hrests.launches
  · exact hidle.launches

/-- A command that does not find a key store that can be loaded does nothing. -/
theorem execute_snd_of_unreadable
    {f : Failure}
    (hcontents : c.vault.contents w = .error f)
    (command : Command) :
    (c.execute command w).2 = w := by
  by_cases hcommand : ∃ shell, command = .completion shell
  · obtain ⟨shell, rfl⟩ := hcommand
    rfl
  · have hother : ∀ shell, command ≠ .completion shell := fun shell h => hcommand ⟨shell, h⟩
    rw [execute_eq_of_unreadable (Vault.load_of_contents_eq_error hcontents) hother]

/-- Where no call fails, a command finds sound keys and does one of the five things, or it does nothing. -/
theorem affected_or_eq
    (hreliable : c.vault.Reliable w)
    (hsound : ∀ keys, c.vault.contents w = .ok keys → keys.Sound)
    (hnow : c.now.InStoredRange)
    (command : Command) :
    (∃ keys, c.vault.Holds keys w ∧ c.Affected keys w (c.execute command w).2) ∨
      (c.execute command w).2 = w := by
  cases hcontents : c.vault.contents w with
  | error f => exact .inr (execute_snd_of_unreadable hcontents command)
  | ok keys =>
      have hholds : c.vault.Holds keys w := ⟨hreliable, hcontents, hsound keys hcontents⟩
      exact .inl ⟨keys, hholds, affected_execute hholds hnow command⟩

/-- Where no call fails, a command that stops early has done nothing, unless it is the launched program that
did not succeed. -/
theorem refused_or_launch
    {abort : Abort}
    {command : Command}
    (hreliable : c.vault.Reliable w)
    (hsound : ∀ keys, c.vault.contents w = .ok keys → keys.Sound)
    (hnow : c.now.InStoredRange)
    (hstops : c.execute command w = (.error abort, w')) :
    Refused w w' ∨ ∃ f, abort = .failed f ∧ f.kind = .launch := by
  cases hcontents : c.vault.contents w with
  | error f =>
      have hsame := execute_snd_of_unreadable hcontents command
      rw [hstops] at hsame
      subst hsame
      exact .inl (.inl (.refl _))
  | ok keys =>
      have hholds : c.vault.Holds keys w := ⟨hreliable, hcontents, hsound keys hcontents⟩
      obtain ⟨-, hstopped⟩ := ensures_execute hholds hnow command w rfl
      exact (hstopped abort w' hstops).imp_right And.left

end Context

/-- Whether a command of a session finds what it can rely on: a clock in range, both files as they have been
left, programs that spare them, and on disk room for every text. -/
structure Turn.Ordinary (t : Turn) (paths : StorePaths) (w : World) : Prop where
  now : t.now.InStoredRange
  keeps : ∀ path ∈ [paths.keys, paths.lastUsed], KeepsFile path w (t.found w)
  spares : ∀ path ∈ [paths.keys, paths.lastUsed], (t.found w).Spares path
  stores : w.memory = none →
    ∀ text, ((⟨paths.keys⟩ : Vault).writePrivate text (t.found w).machine.disk).1 = .ok ()

namespace Turn

variable {t : Turn} {paths : StorePaths} {w w' : World}

/-- For files in memory only the clock counts. -/
theorem ordinary_of_memory
    (hmemory : w.memory.isSome = true)
    (hnow : t.now.InStoredRange) :
    t.Ordinary paths w := by
  obtain ⟨m, hm⟩ := Option.isSome_iff_exists.1 hmemory
  have hne : w.memory ≠ none := by
    rw [hm]
    exact Option.some_ne_none m
  exact ⟨hnow, fun path _ => .of_sameAt hm hm (.refl _ m), fun path _ hdisk => absurd hdisk hne,
    fun hdisk => absurd hdisk hne⟩

theorem inStoredRange_simple :
    Instant.InStoredRange ⟨63839577600000000000⟩ := by
  decide +kernel

/-- On a machine without programs that is left alone there only has to be room on the disk. -/
theorem ordinary_simple
    {command : Command}
    (hprograms : w.machine.programs = Host.noPrograms)
    (hstores : w.memory = none →
      ∀ text, ((⟨paths.keys⟩ : Vault).writePrivate text w.machine.disk).1 = .ok ()) :
    (Turn.simple command).Ordinary paths w where
  now := inStoredRange_simple
  keeps _ _ := ⟨rfl, fun _ hseen => hseen⟩
  spares path _ hdisk := by
    have hnone : ((Turn.simple command).found w).machine.programs = Host.noPrograms := hprograms
    rw [hnone]
    exact Host.spare_noPrograms path
  stores := hstores

/-- What a command finds has its files where they were. -/
theorem distinct_found
    {path other : String}
    (h : w.Distinct path other) :
    (t.found w).Distinct path other := by
  rwa [World.Distinct, memory_found]

theorem Ordinary.reliable
    (h : t.Ordinary paths w)
    (htrusted : w.Trusted) :
    (t.context paths).vault.Reliable (t.found w) :=
  ⟨htrusted, h.stores⟩

/-- An ordinary command finds sound keys and does one of the five things, or it keeps both files. -/
theorem affected_or_kept
    (h : t.Ordinary paths w)
    (htrusted : w.Trusted)
    (hsound : ∀ keys, (t.context paths).vault.contents (t.found w) = .ok keys → keys.Sound) :
    (∃ keys, (t.context paths).vault.Holds keys (t.found w) ∧
        (t.context paths).Affected keys (t.found w) (t.take paths w).2) ∨
      ∀ path ∈ [paths.keys, paths.lastUsed], KeepsFile path w (t.take paths w).2 := by
  rcases Context.affected_or_eq (h.reliable htrusted) hsound h.now t.command with haffected | hsame
  · exact .inl haffected
  · right
    intro path hpath
    rw [take, hsame]
    exact h.keeps path hpath

theorem sameSetting_take (t : Turn) (paths : StorePaths) (w : World) :
    SameSetting (t.found w) (t.take paths w).2 :=
  Context.sameSetting_execute t.command (t.found w)

theorem trusted_take
    (h : w.Trusted) :
    (t.take paths w).2.Trusted :=
  (t.sameSetting_take paths w).trusted h

end Turn

namespace Session

/-- Whether each command of a session is ordinary. -/
def Ordinary (paths : StorePaths) : List Turn → World → Prop
  | [], _ => True
  | t :: turns, w => t.Ordinary paths w ∧ Ordinary paths turns (t.take paths w).2

/-- For files in memory only the clocks count. -/
theorem ordinary_of_memory
    {paths : StorePaths}
    {turns : List Turn}
    {w : World}
    (hmemory : w.memory.isSome = true)
    (hclock : ∀ t ∈ turns, t.now.InStoredRange) :
    Ordinary paths turns w := by
  induction turns generalizing w with
  | nil => trivial
  | cons t turns ih =>
      rw [List.forall_mem_cons] at hclock
      refine ⟨Turn.ordinary_of_memory hmemory hclock.1, ih ?_ hclock.2⟩
      rw [(t.sameSetting_take paths w).isSome_memory]
      exact hmemory

/-- What each ordinary command keeps holds throughout an ordinary session. -/
theorem invariant
    {paths : StorePaths}
    {turns : List Turn}
    {Kept : World → Prop}
    (hstep : ∀ (t : Turn) w, t.Ordinary paths w → Kept w → Kept (t.take paths w).2)
    {w : World}
    (hordinary : Ordinary paths turns w)
    (hw : Kept w) :
    Kept (after paths turns w) := by
  induction turns generalizing w with
  | nil => exact hw
  | cons t turns ih =>
      rw [after_cons]
      exact ih hordinary.2 (hstep t w hordinary.1 hw)

end Session
end Keyring
