/-!
# Punycode

A label with characters outside ASCII is written in ASCII as the ASCII characters it holds, a
hyphen, and a sequence of numbers that say where the others are inserted.  Only the reading
direction is needed here.
-/

namespace Keyring
namespace Url
namespace Punycode

/-- The value of a digit. -/
def digit? (c : Char) : Option Nat :=
  if c.isDigit then some (c.toNat - 0x30 + 26)
  else if 'a' ≤ c && c ≤ 'z' then some (c.toNat - 0x61)
  else none

/-- The threshold of the digit at the position `k`, under a bias. -/
def threshold (k bias : Nat) : Nat :=
  if k ≤ bias then 1 else min 26 (k - bias)

/-- Divides by 35 until the rest is small; returns the rest and the number of divisions. -/
def reduce : Nat → Nat → Nat → Nat × Nat
  | 0, delta, k => (delta, k)
  | fuel + 1, delta, k => if delta > 455 then reduce fuel (delta / 35) (k + 36) else (delta, k)

/-- The bias after an insertion. -/
def adapt (delta points : Nat) (first : Bool) : Nat :=
  let delta := if first then delta / 700 else delta / 2
  let (delta, k) := reduce 32 (delta + delta / points) 0
  k + 36 * delta / (delta + 38)

/-- Numbers do not exceed 32 bits. -/
def greatest : Nat := Nat.pow 2 32 - 1

/-- Reads a number: `k` is the position of the next digit, `weight` its weight, and `sum` the
number so far. -/
def readNumber (bias : Nat) : Nat → Nat → Nat → List Char → Option (Nat × List Char)
  | _, _, _, [] => none
  | k, weight, sum, c :: rest =>
      match digit? c with
      | none => none
      | some d =>
          let sum := sum + d * weight
          let t := threshold k bias
          if sum > greatest then none
          else if d < t then some (sum, rest)
          else
            let weight := weight * (36 - t)
            if weight > greatest then none else readNumber bias (k + 36) weight sum rest

/-- Inserts the characters that the numbers describe; `fuel` bounds how many there are. -/
def insertAll : Nat → Nat → Nat → Nat → List Char → List Char → Option (List Char)
  | 0, _, _, _, _, _ => none
  | _ + 1, _, _, _, label, [] => some label
  | fuel + 1, point, index, bias, label, digits =>
      match readNumber bias 36 1 index digits with
      | none => none
      | some (i, rest) =>
          let length := label.length + 1
          let point := point + i / length
          let position := i % length
          if point.isValidChar then
            insertAll fuel point (position + 1) (adapt (i - index) length (index == 0))
              (label.take position ++ Char.ofNat point :: label.drop position) rest
          else none

/-- The part of a label before its last hyphen and the part after it.  A hyphen that comes first
separates nothing. -/
def split (s : List Char) : List Char × List Char :=
  let tail := (s.reverse.takeWhile (· != '-')).reverse
  let base := s.take (s.length - tail.length - 1)
  if base.isEmpty then ([], s) else (base, tail)

/-- Reads the part of a label after its marker. -/
def decode? (s : List Char) : Option (List Char) :=
  let (base, tail) := split s
  if s.all fun c => c.toNat < 0x80 then insertAll (tail.length + 1) 0x80 0 72 base tail else none

end Punycode
end Url
end Keyring
