import Keyring.Decimal.Binary64

/-!
# The shortest decimal digits of a value

A value is written with the fewest decimal digits that still read back as that value.  Its
neighbours bound an interval of numbers that round to it; for one digit, two digits and so on the
two points of the decimal grid on either side of the value are tested against that interval, and
the first grid with a hit wins.  Of two hits the nearer is taken, and of two equally near ones the
one whose last digit is even.
-/

namespace Keyring
namespace Decimal

/-- A decimal number `digits · 10 ^ exponent`. -/
structure Digits where
  digits : Nat
  exponent : Int
deriving DecidableEq, Repr

namespace Binary64

/-- The value four times as fine: `4 · significand` steps of `2 ^ (exponent - 2)`, so that the
borders of its interval are whole steps. -/
def fineRatio (x : Binary64) (steps : Nat) : Nat × Nat :=
  ratio ⟨steps, x.exponent - 2⟩

/-- The lower and the upper border of the interval of numbers that round to the value, in fine
steps.  The interval is narrower below a power of two. -/
def borders (x : Binary64) : Nat × Nat :=
  let m := 4 * x.significand
  if x.significand = Nat.pow 2 (precision - 1) && x.exponent > leastExponent then (m - 1, m + 2)
  else (m - 2, m + 2)

/-- Whether `digits · 10 ^ exponent` rounds to the value.  The borders belong to the interval of a
value with an even significand. -/
def holds (x : Binary64) (digits : Nat) (exponent : Int) : Bool :=
  let (p, q) :=
    if exponent < 0 then (digits, Nat.pow 10 exponent.natAbs)
    else (digits * Nat.pow 10 exponent.natAbs, 1)
  let low := x.fineRatio x.borders.1
  let high := x.fineRatio x.borders.2
  if x.significand % 2 = 0 then
    low.1 * q ≤ p * low.2 && p * high.2 ≤ high.1 * q
  else
    low.1 * q < p * low.2 && p * high.2 < high.1 * q

/-- The whole number of grid steps `10 ^ exponent` below the value, and twice the remainder compared
with a step. -/
def gridBelow (x : Binary64) (exponent : Int) : Nat × Ordering :=
  let (n, d) := x.ratio
  let (n, d) :=
    if exponent < 0 then (n * Nat.pow 10 exponent.natAbs, d)
    else (n, d * Nat.pow 10 exponent.natAbs)
  (n / d, compare (2 * (n % d)) d)

/-- The point of a grid that rounds to the value, if there is one. -/
def onGrid? (x : Binary64) (exponent : Int) : Option Nat :=
  let (below, side) := x.gridBelow exponent
  let above := below + 1
  match x.holds below exponent, x.holds above exponent with
  | true, true =>
      match side with
      | .lt => some below
      | .gt => some above
      | .eq => some (if below % 2 = 0 then below else above)
  | true, false => some below
  | false, true => some above
  | false, false => none

/-- Tries grids from coarse to fine, starting at `10 ^ exponent`. -/
def shortestFrom (x : Binary64) (exponent : Int) : Nat → Digits
  | 0 => ⟨0, 0⟩
  | tries + 1 =>
      match x.onGrid? exponent with
      | some n => if n = 0 then shortestFrom x (exponent - 1) tries else ⟨n, exponent⟩
      | none => shortestFrom x (exponent - 1) tries

/-- An exponent whose power of ten is not below the value. -/
def upperExponent (x : Binary64) : Int :=
  let bits : Int := x.significand.log2 + 1 + x.exponent
  bits * 30103 / 100000 + 1

/-- The shortest decimal number that reads back as the value. -/
def shortest (x : Binary64) : Digits :=
  if x.significand = 0 then ⟨0, 0⟩
  else
    let d := x.shortestFrom x.upperExponent 22
    strip d.digits d.exponent 22
where
  /-- Moves zeros at the end of the digits into the exponent. -/
  strip (digits : Nat) (exponent : Int) : Nat → Digits
    | 0 => ⟨digits, exponent⟩
    | tries + 1 =>
        if digits % 10 = 0 then strip (digits / 10) (exponent + 1) tries else ⟨digits, exponent⟩

end Binary64
end Decimal
end Keyring
