import Keyring.Key.BaseUrl
import Keyring.Key.Name
import Keyring.Proofs.Text.Trim

/-!
# Names and base URLs read back

The text of a name reads as that name, and the text of a base URL as that base URL: both readers
accept what they have once let through, without changing it.
-/

namespace Keyring

/-- A result is the same however its faults are told. -/
theorem mapError_eq_ok_iff
    {ε ε' α : Type}
    {f : ε → ε'}
    {r : Except ε α}
    {a : α} :
    r.mapError f = .ok a ↔ r = .ok a := by
  cases r with
  | error fault => exact iff_of_false (fun h => by cases h) fun h => by cases h
  | ok b =>
      constructor
      · intro h
        cases h
        rfl
      · intro h
        cases h
        rfl

/-- The characters of names lie between the blank and the end of ASCII. -/
theorem toNat_of_isNameChar
    {c : Char}
    (h : isNameChar c = true) :
    0x2d ≤ c.toNat ∧ c.toNat ≤ 0x7a := by
  have hrange : ∀ {low high : Char},
      (decide (c.val ≥ low.val) && decide (c.val ≤ high.val)) = true →
        low.toNat ≤ c.toNat ∧ c.toNat ≤ high.toNat := by
    intro low high hboth
    rw [Bool.and_eq_true, decide_eq_true_eq, decide_eq_true_eq] at hboth
    exact hboth
  change (((c.isUpper || c.isLower) || c.isDigit) || c == '-' || c == '_') = true at h
  simp only [Bool.or_eq_true, beq_iff_eq] at h
  rcases h with (((hupper | hlower) | hdigit) | rfl) | rfl
  · obtain ⟨hlow, hhigh⟩ : 'A'.toNat ≤ c.toNat ∧ c.toNat ≤ 'Z'.toNat := of_decide_eq_true hupper
    exact ⟨Nat.le_trans (by decide) hlow, Nat.le_trans hhigh (by decide)⟩
  · obtain ⟨hlow, hhigh⟩ : 'a'.toNat ≤ c.toNat ∧ c.toNat ≤ 'z'.toNat := hrange hlower
    exact ⟨Nat.le_trans (by decide) hlow, Nat.le_trans hhigh (by decide)⟩
  · obtain ⟨hlow, hhigh⟩ : '0'.toNat ≤ c.toNat ∧ c.toNat ≤ '9'.toNat := hrange hdigit
    exact ⟨Nat.le_trans (by decide) hlow, Nat.le_trans hhigh (by decide)⟩
  · decide
  · decide

/-- No character of a name is blank. -/
theorem isBlank_of_isNameChar
    {c : Char}
    (h : isNameChar c = true) :
    Text.isBlank c = false := by
  obtain ⟨hlow, hhigh⟩ := toNat_of_isNameChar h
  exact Text.isBlank_of_visible (by omega) (by omega)

namespace KeyName

/-- The characters of a name are such as may stand in one. -/
theorem isNameChar_of_mem
    (n : KeyName)
    {c : Char}
    (h : c ∈ n.value.toList) :
    isNameChar c = true :=
  List.all_eq_true.1 n.valid c h

/-- A name is its own trimmed form. -/
theorem trimmed_value (n : KeyName) :
    Text.trimmed n.value = n.value := by
  have htrim : Text.trim n.value.toList = n.value.toList := by
    apply Text.trim_eq_self_of_forall
    intro c hc
    exact isBlank_of_isNameChar (n.isNameChar_of_mem hc)
  rw [Text.trimmed, htrim, String.ofList_toList]

/-- The text of a name reads back as that name. -/
@[simp] theorem ofText_value (n : KeyName) :
    ofText n.value = .ok n := by
  simp only [ofText, trimmed_value]
  rw [dif_pos n.nonempty, dif_pos n.valid]

/-- A text is read as a name exactly if the name is what is left of it after trimming. -/
theorem ofText_eq_ok_iff
    {raw : String}
    {n : KeyName} :
    ofText raw = .ok n ↔ Text.trimmed raw = n.value := by
  constructor
  · intro h
    unfold ofText at h
    simp only at h
    split at h
    · split at h
      · cases h
        rfl
      · cases h
    · cases h
  · intro h
    rw [← ofText_value n]
    simp only [ofText, h, trimmed_value]

/-- A command is given a name exactly if the name is what is left of the text after trimming. -/
theorem read_eq_ok_iff
    {raw : String}
    {n : KeyName} :
    read raw = .ok n ↔ Text.trimmed raw = n.value := by
  rw [← ofText_eq_ok_iff, read, mapError_eq_ok_iff]

/-- The text of a name does not stand for the absence of one. -/
@[simp] theorem isBlankText_value (n : KeyName) :
    Text.isBlankText n.value = false := by
  obtain ⟨c, rest, hvalue⟩ := List.exists_cons_of_ne_nil n.nonempty
  have hc : Text.isBlank c = false := by
    apply isBlank_of_isNameChar
    apply n.isNameChar_of_mem
    simp [hvalue]
  simp [Text.isBlankText, hvalue, hc]

end KeyName

namespace BaseUrl

/-- The text of a base URL reads back as that base URL. -/
@[simp] theorem ofText_value (u : BaseUrl) :
    ofText u.value = .ok u := by
  unfold ofText
  simp only [u.trimmed]
  split
  · rfl
  · next hnonempty =>
      have hfault : Url.fault? u.value = none := u.accepted.resolve_left hnonempty
      split
      · next reason hreason =>
          rw [u.trimmed, hfault] at hreason
          cases hreason
      · rfl

/-- A command is given the base URL that a text is read as. -/
theorem read_eq_ok_iff
    {raw : String}
    {u : BaseUrl} :
    read raw = .ok u ↔ ofText raw = .ok u := by
  rw [read, mapError_eq_ok_iff]

end BaseUrl
end Keyring
