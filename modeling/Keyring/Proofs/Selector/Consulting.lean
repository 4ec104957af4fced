import Keyring.Selector.Chain

/-!
# What consulting a selector comes to

The menu is shown, one question is asked, and the reply to it decides.  A picker that is there is put on
record and started, and how it ends decides; one that is not there cannot be used.  Each of these is one
equation, from which everything else that is said about selectors starts.

Among several keys there is a choice to be made, so whoever is asked is consulted.
-/

namespace Keyring

namespace World

/-- The world in which a picker is about to be started. -/
def calling (w : World) (i : Host.Invocation) : World :=
  { w with pickers := w.pickers ++ [i] }

/-- Starting a program adds nothing to the record of pickers. -/
@[simp] theorem pickers_start
    (w : World)
    (i : Host.Invocation) :
    (w.start i).2.pickers = w.pickers := by
  unfold start
  split
  · rfl
  · rfl

/-- Starting a program adds nothing to the record of consultations. -/
@[simp] theorem consultations_start
    (w : World)
    (i : Host.Invocation) :
    (w.start i).2.consultations = w.consultations := by
  unfold start
  split
  · rfl
  · rfl

end World

namespace Selector

variable (keys : Collection) (hint : Option KeyName) (w : World)

namespace Menu

/-- What the reply to the question comes to. -/
def verdict : Reply → Except Failure Selection
  | .error fault => .error (replyFailure fault)
  | .ok answer => (choose keys hint answer).map .chosen

/-- The reply to the question below the menu, and the world in which it has been given. -/
def asking : Reply × World :=
  (w.display (text keys hint)).ask (question keys hint)

theorem run_eq :
    run keys hint w = (verdict keys hint (asking keys hint w).1, (asking keys hint w).2) := by
  rw [run, asking]
  cases (w.display (text keys hint)).ask (question keys hint) with
  | mk reply w' =>
      cases reply with
      | error fault => rfl
      | ok answer => rfl

end Menu

namespace Picker

/-- What the start of a picker comes to. -/
def verdict
    (o : PickerOptions) :
    Except Host.StartFault Host.Finished → Except Failure Selection
  | .ok f => Picker.result o.program f
  | .error e => .ok (.unavailable ("failed to start " ++ o.program ++ ": " ++ e.message))

variable {o : PickerOptions}

theorem run_of_available
    (h : w.machine.hasPicker o.program = true) :
    Picker.run o keys hint w =
      (Picker.verdict o ((w.calling (Picker.invocation o keys hint)).start
          (Picker.invocation o keys hint)).1,
        ((w.calling (Picker.invocation o keys hint)).start (Picker.invocation o keys hint)).2) := by
  cases hstart :
      (w.calling (Picker.invocation o keys hint)).start (Picker.invocation o keys hint) with
  | mk result w' =>
      rw [World.calling] at hstart
      simp only [Picker.run, h, if_true, hstart]
      cases result with
      | error fault => rfl
      | ok f => rfl

theorem run_of_missing
    (h : w.machine.hasPicker o.program ≠ true) :
    Picker.run o keys hint w = (.ok (.unavailable (o.program ++ " is not available")), w) := by
  rw [Picker.run, if_neg h]

end Picker

variable {keys}

/-- There is a choice to be made among several keys. -/
theorem trivial?_of_two_le
    (hmany : 2 ≤ keys.size) :
    trivial? keys = .ok none := by
  have hlength : 2 ≤ keys.names.length := by
    rw [Collection.names, List.length_map]
    exact hmany
  unfold trivial?
  split
  · next hnames => simp [hnames] at hlength
  · next hnames => simp [hnames] at hlength
  · rfl

/-- Whoever is asked to choose among several keys is consulted. -/
theorem select_of_two_le
    (s : Selector)
    (hmany : 2 ≤ keys.size) :
    s.select keys hint w = s.consult keys hint w := by
  cases s with
  | menu => simp only [select, trivial?_of_two_le hmany]
  | picker o => simp only [select, trivial?_of_two_le hmany]
  | fixed number outcome => rfl

end Selector
end Keyring
