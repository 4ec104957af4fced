import Keyring.Launcher
import Keyring.Proofs.Key.Veil
import Keyring.Proofs.Selector.Consulting

/-!
# Selectors and veiled keys

What the menu shows and asks, what a picker is given, and which answer chooses which key are the same for
veiled keys.
-/

namespace Keyring

/-- The consultation with all keys veiled. -/
def Consultation.veiled (c : Consultation) : Consultation :=
  { c with keys := c.keys.veiled }

/-- The launch with the mask of the token in the place of the token, which is the value of its first
variable. -/
def Launch.veiled (l : Launch) : Launch :=
  { l with
    bindings :=
      match l.bindings with
      | (name, token) :: rest => (name, mask token) :: rest
      | [] => [] }

namespace Selector

variable (keys : Collection) (hint : Option KeyName)

section Texts

theorem trivial?_veiled :
    trivial? keys.veiled = trivial? keys := by
  simp only [trivial?, Collection.names_veiled]

theorem Menu.text_veiled :
    Menu.text keys.veiled hint = Menu.text keys hint := by
  have hline : ∀ (p : Profile) number, Menu.line hint p.veiled number = Menu.line hint p number := by
    intro p number
    simp only [Menu.line, Profile.name_veiled, Profile.masked_veiled]
    rfl
  have hlines : ∀ (ps : List Profile) (number : Nat),
      Menu.linesFrom hint number (ps.map Profile.veiled) = Menu.linesFrom hint number ps := by
    intro ps
    induction ps with
    | nil => exact fun _ => rfl
    | cons p ps ih =>
        intro number
        simp only [List.map_cons, Menu.linesFrom, ih, hline]
  simp only [Menu.text, Collection.keys_veiled, hlines]

theorem Menu.defaultNumber_veiled :
    Menu.defaultNumber keys.veiled hint = Menu.defaultNumber keys hint := by
  have hnumber : Menu.numberOf? keys.veiled = Menu.numberOf? keys := by
    funext name
    unfold Menu.numberOf?
    rw [Collection.names_veiled]
  unfold Menu.defaultNumber
  rw [hnumber]

theorem Menu.question_veiled :
    Menu.question keys.veiled hint = Menu.question keys hint := by
  unfold Menu.question
  rw [Menu.defaultNumber_veiled, Collection.size_veiled]

theorem Menu.choose_veiled (answer : String) :
    Menu.choose keys.veiled hint answer = Menu.choose keys hint answer := by
  have hexpected : Menu.expected keys.veiled = Menu.expected keys := by
    unfold Menu.expected
    rw [Collection.size_veiled]
  unfold Menu.choose Menu.numberOf
  rw [hexpected, Menu.defaultNumber_veiled, Collection.names_veiled]

theorem Picker.invocation_veiled (o : PickerOptions) :
    Picker.invocation o keys.veiled hint = Picker.invocation o keys hint := by
  have hentry : ∀ p : Profile, entry hint p.veiled = entry hint p := by
    intro p
    simp only [entry, Profile.name_veiled, Profile.masked_veiled, Profile.note_veiled]
    rfl
  simp only [Picker.invocation, pickerText, entries, Collection.keys_veiled, List.map_map,
    Function.comp_def, hentry]

end Texts

theorem Menu.verdict_veiled :
    Menu.verdict keys.veiled hint = Menu.verdict keys hint := by
  funext reply
  cases reply with
  | error fault => rfl
  | ok answer => simp only [Menu.verdict, Menu.choose_veiled]

end Selector
end Keyring
