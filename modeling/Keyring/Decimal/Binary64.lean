/-!
# Binary floating point with exact arithmetic

A number with a fraction or an exponent is kept as the nearest value of the form `m · 2 ^ e` with at
most 53 significant bits.  Everything here is done on natural numbers: a quotient is rounded to the
nearest such value, ties to the even neighbour, and a power of ten is applied to a value by one
rounded multiplication or division.
-/

namespace Keyring
namespace Decimal

/-- A nonnegative value `significand · 2 ^ exponent`. -/
structure Binary64 where
  significand : Nat
  exponent : Int
deriving DecidableEq, Repr

namespace Binary64

/-- The number of significant bits. -/
def precision : Nat := 53

/-- The least exponent of the format. -/
def leastExponent : Int := -1074

/-- The greatest exponent of the format. -/
def greatestExponent : Int := 971

/-- The value zero. -/
def zero : Binary64 := ⟨0, leastExponent⟩

/-- The quotient rounded to the nearest integer, a tie to the even one. -/
def roundDiv (num den : Nat) : Nat :=
  let q := num / den
  let r := num % den
  if 2 * r > den || (2 * r == den && q % 2 == 1) then q + 1 else q

/-- The quotient `num / (den · 2 ^ e)` as a numerator and a denominator. -/
def scaled (num den : Nat) (e : Int) : Nat × Nat :=
  if e < 0 then (num * Nat.pow 2 e.natAbs, den) else (num, den * Nat.pow 2 e.natAbs)

/-- The value nearest to `num / den`, or nothing when it lies beyond the greatest one. -/
def ofRatio? (num den : Nat) : Option Binary64 :=
  if num = 0 then some zero
  else
    let guess : Int := (num.log2 : Int) - (den.log2 : Int) - 52
    let (n, d) := scaled num den guess
    let e := max (if n < d * Nat.pow 2 52 then guess - 1 else guess) leastExponent
    let (n, d) := scaled num den e
    let m := roundDiv n d
    let (m, e) := if m = Nat.pow 2 precision then (Nat.pow 2 (precision - 1), e + 1) else (m, e)
    if e > greatestExponent then none else some ⟨m, e⟩

/-- The value as a numerator and a denominator. -/
def ratio (x : Binary64) : Nat × Nat :=
  if x.exponent < 0 then (x.significand, Nat.pow 2 x.exponent.natAbs)
  else (x.significand * Nat.pow 2 x.exponent.natAbs, 1)

/-- The rounded product. -/
def mul? (x y : Binary64) : Option Binary64 :=
  ofRatio? (x.ratio.1 * y.ratio.1) (x.ratio.2 * y.ratio.2)

/-- The rounded quotient; a quotient by zero is refused like one that is too large. -/
def div? (x y : Binary64) : Option Binary64 :=
  if y.significand = 0 then none
  else ofRatio? (x.ratio.1 * y.ratio.2) (x.ratio.2 * y.ratio.1)

/-- The value nearest to a natural number below `2 ^ 64`. -/
def ofNat (n : Nat) : Binary64 :=
  (ofRatio? n 1).getD zero

/-- The value nearest to a power of ten that the format can hold. -/
def tenPow (k : Nat) : Binary64 :=
  ofNat (Nat.pow 10 k)

/-- The greatest power of ten that is applied in one step. -/
def greatestStep : Nat := 308

/-- A value divided by `10 ^ k`, at most `10 ^ 308` at a time; `steps` bounds the number of full
steps, of which three always reach zero. -/
def divTenPow (x : Binary64) (k : Nat) : Nat → Binary64
  | 0 => zero
  | steps + 1 =>
      if k ≤ greatestStep then (x.div? (tenPow k)).getD zero
      else if x.significand = 0 then x
      else divTenPow ((x.div? (tenPow greatestStep)).getD zero) (k - greatestStep) steps

/-- The value of a digit string with an exponent of ten, or nothing when it is out of range. -/
def ofDecimal? (digits : Nat) (exponent : Int) : Option Binary64 :=
  let x := ofNat digits
  if exponent < 0 then some (divTenPow x exponent.natAbs 4)
  else if exponent.natAbs ≤ greatestStep then x.mul? (tenPow exponent.natAbs)
  else if x.significand = 0 then some x
  else none

end Binary64
end Decimal
end Keyring
