import Keyring.Launcher
import Keyring.Proofs.Selector.Files

/-!
# What launching leaves

Whichever way programs are launched, one call adds one entry to the launches, does nothing to files
in memory and leaves the machine as programs do; and when it fails, the failure is one of launching.
-/

namespace Keyring

open World (Idle)

namespace Launcher

variable (launch : Launch) (w : World)

theorem idle_startOnMachine :
    Idle w (startOnMachine launch w).2 := by
  have hstart := w.idle_start ⟨launch.command, launch.arguments, launch.bindings, w.input⟩
  unfold startOnMachine
  split
  · next heq =>
      rw [heq] at hstart
      exact hstart
  · next heq =>
      rw [heq] at hstart
      exact ⟨hstart.memory, hstart.machine, hstart.launches⟩

theorem memory_launch (l : Launcher) :
    (l.launch launch w).2.memory = w.memory := by
  cases l with
  | recording status => rfl
  | machine => exact (idle_startOnMachine launch (note launch w)).memory

/-- What is launched on the machine is a program like any other. -/
theorem worked_launch (l : Launcher) :
    w.machine.Worked (l.launch launch w).2.machine := by
  cases l with
  | recording status => exact .refl
  | machine => exact (idle_startOnMachine launch (note launch w)).machine

/-- One call launches once. -/
theorem launches_launch (l : Launcher) :
    (l.launch launch w).2.launches = w.launches ++ [launch] := by
  cases l with
  | recording status => rfl
  | machine => exact (idle_startOnMachine launch (note launch w)).launches

theorem kind_of_verdict
    {command : String}
    {ending : Except OsError Host.Ending}
    {f : Failure}
    (h : verdict command ending = .error f) :
    f.kind = .launch := by
  unfold verdict at h
  split at h
  · cases h
    rfl
  · cases h
  · cases h
    rfl
  · cases h

theorem kind_of_recorded
    {command : String}
    {status : Option Int}
    {f : Failure}
    (h : recorded command status = .error f) :
    f.kind = .launch := by
  cases status with
  | none => cases h
  | some status =>
      cases h
      rfl

variable {launch w}

theorem kind_of_startOnMachine
    {f : Failure}
    (h : (startOnMachine launch w).1 = .error f) :
    f.kind = .launch := by
  unfold startOnMachine at h
  split at h
  · cases h
    rfl
  · exact kind_of_verdict h

/-- A launch that fails says so. -/
theorem kind_of_launch
    {l : Launcher}
    {abort : Abort}
    {w' : World}
    (h : l.launch launch w = (.error abort, w')) :
    ∃ f, abort = .failed f ∧ f.kind = .launch := by
  have hfailed : ∀ r : Except Failure Unit, (∀ f, r = .error f → f.kind = .launch) →
      r.mapError .failed = .error abort → ∃ f, abort = .failed f ∧ f.kind = .launch := by
    intro r hkind hr
    cases r with
    | ok u => cases hr
    | error f =>
        cases hr
        exact ⟨f, rfl, hkind f rfl⟩
  have hresult : (l.launch launch w).1 = .error abort := congrArg Prod.fst h
  cases l with
  | recording status => exact hfailed _ (fun _ => kind_of_recorded) hresult
  | machine => exact hfailed _ (fun _ => kind_of_startOnMachine) hresult

end Launcher
end Keyring
