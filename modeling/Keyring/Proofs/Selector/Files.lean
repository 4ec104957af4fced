import Keyring.Proofs.Selector.Consulting
import Keyring.Proofs.World

/-!
# Selectors leave what is kept alone

Selectors show, ask and start programs.  Programs see the disk of the machine only, so whatever a chain
of selectors does, the files that are kept in memory are the same afterwards, the machine is as programs
leave it, and nothing has been launched with a credential.
-/

namespace Keyring

open World (Idle)

namespace World

theorem idle_ask (w : World) (question : String) :
    Idle w (w.ask question).2 :=
  ⟨rfl, .refl, rfl⟩

theorem machine_start (w : World) (i : Host.Invocation) :
    (w.start i).2.machine = (w.machine.start i).2 := by
  unfold start
  split
  · next heq => rw [heq]
  · next heq => rw [heq]

theorem idle_start (w : World) (i : Host.Invocation) :
    Idle w (w.start i).2 where
  memory := by
    unfold start
    split
    · rfl
    · rfl
  machine := by
    rw [machine_start]
    exact .start w.machine i
  launches := by
    unfold start
    split
    · rfl
    · rfl

end World

namespace Selector

variable (keys : Collection) (hint : Option KeyName) (w : World)

theorem Menu.idle_run :
    Idle w (Menu.run keys hint w).2 := by
  have hask := (w.display (Menu.text keys hint)).idle_ask (Menu.question keys hint)
  rw [Menu.run_eq]
  exact ⟨hask.memory, hask.machine, hask.launches⟩

theorem Picker.idle_run (o : PickerOptions) :
    Idle w (Picker.run o keys hint w).2 := by
  by_cases havailable : w.machine.hasPicker o.program = true
  · have hstart := (w.calling (Picker.invocation o keys hint)).idle_start (Picker.invocation o keys hint)
    rw [Picker.run_of_available keys hint w havailable]
    exact ⟨hstart.memory, hstart.machine, hstart.launches⟩
  · rw [Picker.run_of_missing keys hint w havailable]
    exact .refl w

theorem idle_consult (s : Selector) :
    Idle w (s.consult keys hint w).2 := by
  cases s with
  | menu => exact Menu.idle_run keys hint w
  | picker o => exact Picker.idle_run keys hint w o
  | fixed number outcome => exact ⟨rfl, .refl, rfl⟩

theorem idle_select (s : Selector) :
    Idle w (s.select keys hint w).2 := by
  unfold select
  split
  · exact idle_consult keys hint w _
  · split
    · exact .refl w
    · exact .refl w
    · exact idle_consult keys hint w _

/-- A chain asks its selectors one after the other, and none of them writes or launches anything. -/
theorem idle_selectFirst (chain : List Selector) :
    Idle w (selectFirst keys hint chain w).2 := by
  induction chain generalizing w with
  | nil => exact .refl w
  | cons s rest ih =>
      have hselect := idle_select keys hint w s
      unfold selectFirst
      split
      · next heq =>
          rw [heq] at hselect
          exact hselect
      · next heq =>
          rw [heq] at hselect
          exact hselect
      · next heq =>
          rw [heq] at hselect
          exact hselect.trans (ih _)

theorem idle_chooseWith (chain : List Selector) :
    Idle w (chooseWith chain keys hint w).2 := by
  unfold chooseWith
  split
  · exact .refl w
  · exact .refl w
  · exact idle_selectFirst keys hint w chain

variable {keys hint w}

theorem idle_of_chooseWith
    {chain : List Selector}
    {choice : Except Failure KeyName}
    {w' : World}
    (h : chooseWith chain keys hint w = (choice, w')) :
    Idle w w' := by
  have hidle := idle_chooseWith keys hint w chain
  rw [h] at hidle
  exact hidle

end Selector
end Keyring
