import Keyring.Proofs.Selector.Veil
import Keyring.Proofs.World

/-!
# Selectors in worlds with different files

Two worlds may differ in their files and still be the same to selectors: nothing else has been said in one
than in the other, and the programs that are called pickers start and end in the same way.  Then a chain
that is given the same keys and the same hint asks the same in both and comes to the same choice
(`Selector.chooseWith_alike`).

A selector that cannot be used leaves everything as it was but for the record of who has been asked
(`Selector.unrecorded_of_select`), so what is known of the pickers before the chain is asked is still known
when the next selector is.
-/

namespace Keyring

namespace Host.Machine

/-- Whether a program is there on both machines or on none, and ends in the same way however it is started. -/
structure SameProgram (m m' : Machine) (program : String) : Prop where
  available : m'.hasPicker program = m.hasPicker program
  outcome : ∀ i : Invocation, i.program = program → (m'.start i).1 = (m.start i).1

/-- A program that cannot be started has done nothing. -/
theorem eq_of_start_eq_error
    {m m' : Machine}
    {i : Invocation}
    {fault : StartFault}
    (h : m.start i = (.error fault, m')) :
    m' = m := by
  unfold start at h
  split at h
  · cases h
    rfl
  · split at h
    · cases h
      rfl
    · cases h

end Host.Machine

namespace World

/-- The world without the record of which selectors have been consulted and which pickers called. -/
def unrecorded (w : World) : World :=
  { w with consultations := [], pickers := [] }

variable {w w' : World}

namespace SameDialogue

/-- A world with the same dialogue is the same but for its files. -/
theorem eq_with
    (h : SameDialogue w w') :
    w' = { w with memory := w'.memory, machine := w'.machine } := by
  cases w'
  obtain ⟨rfl, rfl, rfl, rfl, rfl, rfl⟩ := h
  rfl

theorem symm
    (h : SameDialogue w w') :
    SameDialogue w' w :=
  ⟨h.input.symm, h.terminal.symm, h.output.symm, h.consultations.symm, h.pickers.symm,
    h.launches.symm⟩

theorem trans
    {w'' : World}
    (h : SameDialogue w w')
    (h' : SameDialogue w' w'') :
    SameDialogue w w'' :=
  ⟨h'.input.trans h.input, h'.terminal.trans h.terminal, h'.output.trans h.output,
    h'.consultations.trans h.consultations, h'.pickers.trans h.pickers,
    h'.launches.trans h.launches⟩

end SameDialogue

/-- Whether two worlds are the same to a list of selectors, whatever their files are. -/
structure SameTo (selectors : List Selector) (w w' : World) : Prop where
  dialogue : SameDialogue w w'
  programs : ∀ o, .picker o ∈ selectors → w.machine.SameProgram w'.machine o.program

/-- A program that cannot be started leaves everything as it was. -/
theorem eq_of_start_eq_error
    {i : Host.Invocation}
    {fault : Host.StartFault}
    (h : (w.start i).1 = .error fault) :
    (w.start i).2 = w := by
  unfold start at h ⊢
  split
  · next hmachine =>
      rw [hmachine] at h
      cases h
  · next hmachine => rw [Host.Machine.eq_of_start_eq_error hmachine]

/-- A program that ends in the same way in both adds the same to the dialogue. -/
theorem start_alike
    {i : Host.Invocation}
    (h : SameDialogue w w')
    (hprogram : w.machine.SameProgram w'.machine i.program) :
    (w'.start i).1 = (w.start i).1 ∧ SameDialogue (w.start i).2 (w'.start i).2 := by
  have houtcome := hprogram.outcome i rfl
  unfold start
  cases hstart : w.machine.start i with
  | mk outcome m =>
      cases hstart' : w'.machine.start i with
      | mk outcome' m' =>
          rw [hstart, hstart'] at houtcome
          cases houtcome
          cases outcome with
          | error fault =>
              exact ⟨rfl, ⟨h.input, h.terminal, h.output, h.consultations, h.pickers, h.launches⟩⟩
          | ok f =>
              have hterminal : w'.terminal.write (Text.decodeLossy f.errors) =
                  w.terminal.write (Text.decodeLossy f.errors) := by rw [h.terminal]
              exact ⟨rfl, ⟨h.input, hterminal, h.output, h.consultations, h.pickers, h.launches⟩⟩

end World

namespace Selector

open World (SameDialogue SameTo)

variable {keys : Collection} {hint : Option KeyName} {w w' : World}

section Alike

theorem Menu.run_alike
    (h : SameDialogue w w') :
    (Menu.run keys hint w').1 = (Menu.run keys hint w).1 ∧
      SameDialogue (Menu.run keys hint w).2 (Menu.run keys hint w').2 := by
  rw [h.eq_with, Menu.run_eq, Menu.run_eq]
  exact ⟨rfl, ⟨rfl, rfl, rfl, rfl, rfl, rfl⟩⟩

theorem Picker.run_alike
    {o : PickerOptions}
    (h : SameDialogue w w')
    (hprogram : w.machine.SameProgram w'.machine o.program) :
    (Picker.run o keys hint w').1 = (Picker.run o keys hint w).1 ∧
      SameDialogue (Picker.run o keys hint w).2 (Picker.run o keys hint w').2 := by
  by_cases havailable : w.machine.hasPicker o.program = true
  · have havailable' : w'.machine.hasPicker o.program = true := by
      rw [hprogram.available, havailable]
    let i := Picker.invocation o keys hint
    have hpickers : (w'.calling i).pickers = (w.calling i).pickers := by
      simp only [World.calling, h.pickers]
    have hcalling : SameDialogue (w.calling i) (w'.calling i) :=
      ⟨h.input, h.terminal, h.output, h.consultations, hpickers, h.launches⟩
    obtain ⟨houtcome, hstarted⟩ := World.start_alike (i := i) hcalling hprogram
    rw [Picker.run_of_available keys hint w havailable,
      Picker.run_of_available keys hint w' havailable']
    exact ⟨congrArg (Picker.verdict o) houtcome, hstarted⟩
  · have hmissing : w'.machine.hasPicker o.program ≠ true := by
      rwa [hprogram.available]
    rw [Picker.run_of_missing keys hint w havailable, Picker.run_of_missing keys hint w' hmissing]
    exact ⟨rfl, h⟩

theorem consult_alike
    {s : Selector}
    {selectors : List Selector}
    (hs : s ∈ selectors)
    (h : SameTo selectors w w') :
    (s.consult keys hint w').1 = (s.consult keys hint w).1 ∧
      SameDialogue (s.consult keys hint w).2 (s.consult keys hint w').2 := by
  cases s with
  | menu => exact Menu.run_alike h.dialogue
  | picker o => exact Picker.run_alike h.dialogue (h.programs o hs)
  | fixed number outcome =>
      have hconsultations : w'.consultations ++ [(⟨number, keys, hint⟩ : Consultation)] =
          w.consultations ++ [⟨number, keys, hint⟩] := by rw [h.dialogue.consultations]
      exact ⟨rfl, ⟨h.dialogue.input, h.dialogue.terminal, h.dialogue.output, hconsultations,
        h.dialogue.pickers, h.dialogue.launches⟩⟩

theorem select_alike
    (keys : Collection)
    (hint : Option KeyName)
    {s : Selector}
    {selectors : List Selector}
    (hs : s ∈ selectors)
    (h : SameTo selectors w w') :
    (s.select keys hint w').1 = (s.select keys hint w).1 ∧
      SameDialogue (s.select keys hint w).2 (s.select keys hint w').2 := by
  unfold select
  split
  · exact consult_alike hs h
  · split
    · exact ⟨rfl, h.dialogue⟩
    · exact ⟨rfl, h.dialogue⟩
    · exact consult_alike hs h

end Alike

section Unavailable

variable {reason : String} {w₁ : World}

theorem Menu.verdict_ne_unavailable
    (reply : Reply) :
    Menu.verdict keys hint reply ≠ .ok (.unavailable reason) := by
  cases reply with
  | error fault =>
      intro h
      cases h
  | ok answer =>
      rw [Menu.verdict]
      cases Menu.choose keys hint answer with
      | error f =>
          intro h
          cases h
      | ok name =>
          intro h
          cases h

theorem Picker.result_ne_unavailable
    (program : String)
    (f : Host.Finished) :
    Picker.result program f ≠ .ok (.unavailable reason) := by
  unfold Picker.result
  split
  · intro h
    cases h
  · cases readChoice (Text.decodeLossy f.output) with
    | error fault =>
        intro h
        cases h
    | ok name =>
        intro h
        cases h
  · intro h
    cases h

/-- A picker that cannot be used has at most been put on record. -/
theorem Picker.unrecorded_of_unavailable
    {o : PickerOptions}
    (h : Picker.run o keys hint w = (.ok (.unavailable reason), w₁)) :
    w₁.unrecorded = w.unrecorded := by
  by_cases havailable : w.machine.hasPicker o.program = true
  · rw [Picker.run_of_available keys hint w havailable] at h
    obtain ⟨hverdict, rfl⟩ := Prod.mk.inj h
    cases hstart : ((w.calling (Picker.invocation o keys hint)).start
        (Picker.invocation o keys hint)).1 with
    | ok f =>
        rw [hstart] at hverdict
        exact absurd hverdict (Picker.result_ne_unavailable o.program f)
    | error fault =>
        rw [World.eq_of_start_eq_error hstart]
        rfl
  · rw [Picker.run_of_missing keys hint w havailable] at h
    cases h
    rfl

theorem unrecorded_of_consult
    {s : Selector}
    (h : s.consult keys hint w = (.ok (.unavailable reason), w₁)) :
    w₁.unrecorded = w.unrecorded := by
  cases s with
  | menu =>
      rw [consult, Menu.run_eq] at h
      exact absurd (Prod.mk.inj h).1 (Menu.verdict_ne_unavailable _)
  | picker o => exact Picker.unrecorded_of_unavailable h
  | fixed number outcome =>
      cases h
      rfl

/-- A selector that cannot be used has left everything as it was but for the record of who has been asked. -/
theorem unrecorded_of_select
    {s : Selector}
    (h : s.select keys hint w = (.ok (.unavailable reason), w₁)) :
    w₁.unrecorded = w.unrecorded := by
  unfold select at h
  split at h
  · exact unrecorded_of_consult h
  · split at h
    · cases h
    · cases h
    · exact unrecorded_of_consult h

/-- A selector that cannot be used has left the machine as it was. -/
theorem machine_of_select
    {s : Selector}
    (h : s.select keys hint w = (.ok (.unavailable reason), w₁)) :
    w₁.machine = w.machine := by
  have hmachine := congrArg World.machine (unrecorded_of_select h)
  exact hmachine

end Unavailable

/-- The same chain comes to the same end in both worlds. -/
theorem selectFirst_alike
    {chain : List Selector}
    (h : SameTo chain w w') :
    (selectFirst keys hint chain w').1 = (selectFirst keys hint chain w).1 ∧
      SameDialogue (selectFirst keys hint chain w).2 (selectFirst keys hint chain w').2 := by
  induction chain generalizing w w' with
  | nil => exact ⟨rfl, h.dialogue⟩
  | cons s rest ih =>
      obtain ⟨hresult, hdialogue⟩ := select_alike keys hint List.mem_cons_self h
      unfold selectFirst
      cases hs : s.select keys hint w with
      | mk result w₁ =>
          cases hs' : s.select keys hint w' with
          | mk result' w₁' =>
              rw [hs, hs'] at hresult hdialogue
              cases hresult
              cases result with
              | error f => exact ⟨rfl, hdialogue⟩
              | ok selection =>
                  cases selection with
                  | chosen name => exact ⟨rfl, hdialogue⟩
                  | unavailable reason =>
                      refine ih ⟨hdialogue, fun o ho => ?_⟩
                      rw [machine_of_select hs, machine_of_select hs']
                      exact h.programs o (List.mem_cons_of_mem s ho)

theorem chooseWith_alike
    (keys : Collection)
    (hint : Option KeyName)
    {chain : List Selector}
    (h : SameTo chain w w') :
    (chooseWith chain keys hint w').1 = (chooseWith chain keys hint w).1 ∧
      SameDialogue (chooseWith chain keys hint w).2 (chooseWith chain keys hint w').2 := by
  unfold chooseWith
  split
  · exact ⟨rfl, h.dialogue⟩
  · exact ⟨rfl, h.dialogue⟩
  · exact selectFirst_alike h

end Selector
end Keyring
