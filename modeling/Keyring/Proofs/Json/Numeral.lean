import Keyring.Proofs.Json.Layout

/-!
# Integers read back

The digits of a natural number that fits 64 bits are read as exactly that number, as long as what follows
does not go on with it.
-/

namespace Keyring
namespace Json

/-- Adding digits never makes a number smaller. -/
theorem le_ofDigitChars
    (ds : List Char)
    (n : Nat) :
    n ≤ Nat.ofDigitChars 10 ds n := by
  have hpos : 1 ≤ 10 ^ ds.length := Nat.pow_pos (by decide)
  have hle : 1 * n ≤ 10 ^ ds.length * n := Nat.mul_le_mul_right n hpos
  rw [Nat.ofDigitChars_eq_ofDigitChars_zero]
  omega

/-- All digits are added as long as the whole number fits. -/
theorem addDigits_append
    {ds : List Char}
    (number added : Nat)
    {rest : List Char}
    (hdigit : ∀ c ∈ ds, c.isDigit = true)
    (hrest : startsWithDigit rest = false)
    (hfit : Nat.ofDigitChars 10 ds number ≤ greatestExact) :
    addDigits number added (ds ++ rest) =
      (Nat.ofDigitChars 10 ds number, added + ds.length, rest) := by
  induction ds generalizing number added with
  | nil =>
      cases rest with
      | nil => rfl
      | cons c rest =>
          have hc : c.isDigit = false := hrest
          simp [addDigits, hc]
  | cons c ds ih =>
      rw [Nat.ofDigitChars_cons] at hfit ⊢
      have hgrown : number * 10 + (c.toNat - 0x30) = 10 * number + (c.toNat - '0'.toNat) := by
        rw [Nat.mul_comm]
        rfl
      -- What has been added so far is at most the whole number, so it fits as well.
      have hle := Nat.le_trans (le_ofDigitChars ds _) hfit
      have hc := hdigit c List.mem_cons_self
      have hds := fun d hd => hdigit d (List.mem_cons_of_mem c hd)
      simp only [List.cons_append, addDigits, hc, if_true, hgrown, hle, ih _ _ hds hfit,
        List.length_cons, Nat.add_comm 1, Nat.add_assoc]

/-- A positive number does not start with a zero. -/
theorem head?_toDigits_ne
    {n : Nat}
    (hn : 0 < n) :
    (Nat.toDigits 10 n).head? ≠ some '0' := by
  induction n using Nat.strongRecOn with
  | ind n ih =>
      rcases Nat.lt_or_ge n 10 with hsmall | hlarge
      · have hall : ∀ d < 10, 0 < d → Nat.digitChar d ≠ '0' := by decide
        rw [Nat.toDigits_of_lt_base hsmall, List.head?_cons, Ne, Option.some.injEq]
        exact hall n hsmall hn
      · have hfront := ih (n / 10) (by omega) (by omega)
        rw [Nat.toDigits_of_base_le (by decide) hlarge, List.head?_append]
        obtain ⟨c, ds, hds⟩ := List.exists_cons_of_ne_nil (Nat.toDigits_ne_nil (n := n / 10) (b := 10))
        rw [hds, List.head?_cons] at hfront ⊢
        exact hfront

/-- The digits of a number start with one. -/
theorem exists_digit_toDigits (n : Nat) :
    ∃ c ds, Nat.toDigits 10 n = c :: ds ∧ c.isDigit = true := by
  obtain ⟨c, ds, hds⟩ := List.exists_cons_of_ne_nil (Nat.toDigits_ne_nil (n := n) (b := 10))
  refine ⟨c, ds, hds, Nat.isDigit_of_mem_toDigits (b := 10) (n := n) (by decide) (by decide) ?_⟩
  rw [hds]
  exact List.mem_cons_self

/-- What may follow a number: nothing that goes on with it, as a digit, a point and an exponent do. -/
def EndsNumber (s : List Char) : Prop :=
  ∀ c ∈ s.head?, c.isDigit = false ∧ c ≠ '.' ∧ c ≠ 'e' ∧ c ≠ 'E'

theorem EndsValue.endsNumber
    {rest : List Char}
    (hrest : EndsValue rest) :
    EndsNumber rest := by
  intro c hc
  rcases hrest c hc with rfl | rfl
  · decide
  · decide

section Digits

variable {rest : List Char}

/-- Digits with neither a fraction nor an exponent make an integer. -/
theorem readAfterDigits_of_endsNumber
    (negative : Bool)
    (n : Nat)
    (hrest : EndsNumber rest) :
    readAfterDigits negative n rest = integer negative n rest := by
  unfold readAfterDigits
  split
  · exact absurd rfl (hrest _ rfl).2.1
  · exact absurd rfl (hrest _ rfl).2.2.1
  · exact absurd rfl (hrest _ rfl).2.2.2
  · rfl

theorem startsWithDigit_of_endsNumber (hrest : EndsNumber rest) :
    startsWithDigit rest = false := by
  cases rest with
  | nil => rfl
  | cons c rest => exact (hrest c rfl).1

/-- The digits of a number that fits are read as that number, with its sign. -/
theorem readNumber_toDigits
    (negative : Bool)
    {n : Nat}
    (hfit : n ≤ greatestExact)
    (hrest : EndsNumber rest) :
    readNumber negative (Nat.toDigits 10 n ++ rest) = integer negative n rest := by
  have hdigit : startsWithDigit rest = false := startsWithDigit_of_endsNumber hrest
  rcases Nat.eq_zero_or_pos n with rfl | hn
  · simp [readNumber, hdigit, readAfterDigits_of_endsNumber negative 0 hrest]
  · obtain ⟨c, ds, hds⟩ := List.exists_cons_of_ne_nil (Nat.toDigits_ne_nil (n := n) (b := 10))
    have hall : ∀ d ∈ c :: ds, d.isDigit = true := fun d hd =>
      Nat.isDigit_of_mem_toDigits (by decide) (by decide) (hds ▸ hd)
    have hzero : c ≠ '0' := by
      have hhead := head?_toDigits_ne hn
      rw [hds, List.head?_cons, Ne, Option.some.injEq] at hhead
      exact hhead
    have hvalue : Nat.ofDigitChars 10 ds (c.toNat - 0x30) = n := by
      have hwhole := Nat.ofDigitChars_ten_toDigits (n := n)
      rw [hds, Nat.ofDigitChars_cons, Nat.mul_zero, Nat.zero_add] at hwhole
      exact hwhole
    have hadd := addDigits_append (c.toNat - 0x30) 0
      (fun d hd => hall d (List.mem_cons_of_mem c hd)) hdigit (by rw [hvalue]; exact hfit)
    rw [hds, List.cons_append, readNumber, if_neg hzero, if_pos (hall c List.mem_cons_self), hadd,
      hvalue]
    simp only [hdigit, Bool.false_eq_true, if_false, readAfterDigits_of_endsNumber negative n hrest]

end Digits

/-- A digit is no blank. -/
theorem isSpace_of_isDigit
    {c : Char}
    (hc : c.isDigit = true) :
    isSpace c = false := by
  rw [Bool.eq_false_iff]
  intro hspace
  simp only [isSpace, Bool.or_eq_true, beq_iff_eq] at hspace
  rcases hspace with ((rfl | rfl) | rfl) | rfl
  all_goals exact absurd hc (by decide)

/-- A digit starts no other token than a number. -/
theorem readFound_of_isDigit
    {c : Char}
    {s rest : List Char}
    {n : Number}
    (hc : c.isDigit = true)
    (hread : readNumber false (c :: s) = .ok (n, rest)) :
    readFound (c :: s) = .ok (.number n, rest) := by
  rw [readFound, skipSpace, List.dropWhile_cons, isSpace_of_isDigit hc]
  simp only [Bool.false_eq_true, if_false]
  split
  all_goals first
    | exact absurd hc (by decide)
    | simp [hc, hread]

/-- A natural number of 32 bits is taken for itself. -/
theorem Codec.takes_word32
    {n : Nat}
    (hn : n < Nat.pow 2 32) :
    Takes Codec.word32.read (.nat n) n := by
  intro level gap rest hgap hrest
  obtain ⟨c, ds, hds, hc⟩ := exists_digit_toDigits n
  have hfit : n ≤ greatestExact := by
    have hword : n < 4294967296 := hn
    have hgreatest : greatestExact = 18446744073709551615 := rfl
    omega
  have hnumber := readNumber_toDigits false hfit hrest.endsNumber
  have hread : readFound (gap ++ (indentedText level (.nat n) ++ rest)) =
      .ok (.number (.int n), rest) := by
    rw [readFound_append hgap]
    change readFound (Nat.toDigits 10 n ++ rest) = _
    rw [hds, List.cons_append] at hnumber ⊢
    exact readFound_of_isDigit hc hnumber
  have hword : (decide (0 ≤ (n : Int)) && decide (n < Nat.pow 2 32)) = true := by
    rw [Bool.and_eq_true, decide_eq_true_eq, decide_eq_true_eq]
    exact ⟨Int.natCast_nonneg n, hn⟩
  simp only [Codec.word32, Codec.scalar, readScalar, hread, Int.toNat_natCast, hword, if_true]

end Json
end Keyring
