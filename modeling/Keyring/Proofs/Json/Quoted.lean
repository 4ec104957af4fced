import Keyring.Json.Token

/-!
# Strings read back

Reading undoes writing for every string, whatever follows its closing quote.  The argument goes
character by character: the reader takes what `escape` makes of one character in one step and adds
that character to those it has read.
-/

namespace Keyring
namespace Json

/-- A hexadecimal digit has the value it was made from. -/
theorem hexValue?_hexDigit (n : Nat) :
    Text.hexValue? (hexDigit n) = some (n % 16) := by
  have hall : ∀ d < 16, Text.hexValue? (Nat.digitChar d) = some d := by decide
  exact hall (n % 16) (Nat.mod_lt n (by decide))

/-- The escape of a control character denotes it. -/
theorem readEscape_control
    {c : Char}
    (rest : List Char)
    (hc : c.toNat < 0x20) :
    readEscape ('u' :: '0' :: '0' :: hexDigit (c.toNat / 16) :: hexDigit c.toNat :: rest) =
      .ok (c, rest) := by
  have hzero : Text.hexValue? '0' = some 0 := by decide
  have hvalue : ((0 * 16 + 0) * 16 + c.toNat / 16 % 16) * 16 + c.toNat % 16 = c.toNat := by omega
  have hlow : isLowSurrogate c.toNat = false := by
    simp only [isLowSurrogate, Bool.and_eq_false_iff, decide_eq_false_iff_not]
    omega
  have hhigh : isHighSurrogate c.toNat = false := by
    simp only [isHighSurrogate, Bool.and_eq_false_iff, decide_eq_false_iff_not]
    omega
  simp only [readEscape, readPoint, readHex, hzero, hexValue?_hexDigit, hvalue, hlow, hhigh]
  simp [Char.ofNat_toNat]

/-- What stands for a character is read as that character in one step. -/
theorem readCharsFrom_escape
    (fuel : Nat)
    (read : List Char)
    (c : Char)
    (rest : List Char) :
    readCharsFrom (fuel + 1) read (escape c ++ rest) = readCharsFrom fuel (c :: read) rest := by
  -- The cases are the branches of `escape`: seven short escapes, the control characters, the rest.
  unfold escape
  split
  · next h => subst h; rfl
  split
  · next h => subst h; rfl
  split
  · next h => subst h; rfl
  split
  · next h => subst h; rfl
  split
  · next h => subst h; rfl
  split
  · next h => subst h; rfl
  split
  · next h => subst h; rfl
  split
  · next hcontrol =>
      have hread := readEscape_control rest hcontrol
      simp only [List.cons_append, List.nil_append, readCharsFrom, hread]
      rfl
  · next hquote hbackslash _ _ _ _ _ hcontrol =>
      simp [readCharsFrom, hquote, hbackslash, hcontrol]

/-- The characters of a string are read up to its closing quote. -/
theorem readCharsFrom_flatMap_escape
    {fuel : Nat}
    (read cs rest : List Char)
    (hfuel : cs.length < fuel) :
    readCharsFrom fuel read (cs.flatMap escape ++ '"' :: rest) = .ok (read.reverse ++ cs, rest) := by
  induction cs generalizing fuel read with
  | nil =>
      obtain ⟨fuel, rfl⟩ := Nat.exists_eq_add_one_of_ne_zero (Nat.ne_of_gt hfuel)
      simp [readCharsFrom]
  | cons c cs ih =>
      rw [List.length_cons] at hfuel
      obtain ⟨fuel, rfl⟩ := Nat.exists_eq_add_one_of_ne_zero (show fuel ≠ 0 by omega)
      rw [List.flatMap_cons, List.append_assoc, readCharsFrom_escape, ih _ (by omega)]
      simp

/-- Escaping never shortens a text. -/
theorem length_le_length_flatMap_escape (cs : List Char) :
    cs.length ≤ (cs.flatMap escape).length := by
  induction cs with
  | nil => simp
  | cons c cs ih =>
      have hpos : 1 ≤ (escape c).length := by
        unfold escape
        repeat' split
        all_goals simp
      rw [List.flatMap_cons, List.length_append, List.length_cons]
      omega

/-- A string is read after its opening quote. -/
theorem readString_flatMap_escape (s : String) (rest : List Char) :
    readString (s.toList.flatMap escape ++ '"' :: rest) = .ok (s, rest) := by
  have hlength := length_le_length_flatMap_escape s.toList
  have hfuel : s.toList.length < (s.toList.flatMap escape ++ '"' :: rest).length + 1 := by
    rw [List.length_append]
    omega
  rw [readString, readCharsFrom_flatMap_escape [] s.toList rest hfuel]
  simp

/-- A string in quotes starts with a quote. -/
theorem quoted_append (s : String) (rest : List Char) :
    quoted s ++ rest = '"' :: (s.toList.flatMap escape ++ '"' :: rest) := by
  simp [quoted]

/-- A string in quotes is found as that string. -/
theorem readFound_quoted (s : String) (rest : List Char) :
    readFound (quoted s ++ rest) = .ok (.text s, rest) := by
  rw [quoted_append]
  simp [readFound, skipSpace, isSpace, readString_flatMap_escape]

end Json
end Keyring
