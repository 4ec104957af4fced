/-!
# Tables of code points

A set of code points is a list of ranges.  It is written down as hexadecimal numbers separated by
spaces, alternately the gap since the last range and the size of the next one, so that a table of
many ranges stays a few lines of text.
-/

namespace Keyring
namespace Text

/-- The value of a hexadecimal digit. -/
def hexValue? (c : Char) : Option Nat :=
  if '0' ≤ c && c ≤ '9' then some (c.toNat - 0x30)
  else if 'a' ≤ c && c ≤ 'f' then some (c.toNat - 0x57)
  else if 'A' ≤ c && c ≤ 'F' then some (c.toNat - 0x37)
  else none

/-- The number that hexadecimal digits denote; other characters are passed over. -/
def hexNumber (s : List Char) : Nat :=
  s.foldl (fun n c => match hexValue? c with | some d => n * 16 + d | none => n) 0

/-- The words of a line, which single spaces separate. -/
def words : List Char → List (List Char)
  | [] => [[]]
  | c :: rest =>
      if c = ' ' then [] :: words rest
      else match words rest with
        | [] => [[c]]
        | w :: ws => (c :: w) :: ws

/-- A set of code points: its ranges, each with its first code point and the one after its last. -/
structure Ranges where
  spans : List (Nat × Nat)

namespace Ranges

/-- The ranges given by alternating gaps and sizes, the first gap counted from `start`. -/
def spansFrom (start : Nat) : List Nat → List (Nat × Nat)
  | gap :: size :: rest => (start + gap, start + gap + size) :: spansFrom (start + gap + size) rest
  | _ => []

/-- Reads a table. -/
def ofTable (lines : List String) : Ranges :=
  ⟨spansFrom 0 (lines.flatMap fun line => (words line.toList).map hexNumber)⟩

/-- Whether a code point lies in one of the ranges. -/
def contains (r : Ranges) (n : Nat) : Bool :=
  r.spans.any fun (low, high) => low ≤ n && n < high

end Ranges
end Text
end Keyring
