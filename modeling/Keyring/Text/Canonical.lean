import Keyring.Text.CanonicalTables
import Keyring.Text.Ranges

/-!
# The canonical form of a text

The same character can be written composed or as a letter with marks after it, and marks that do not
meet can come in any order.  The canonical form of a text is its composed form: every character is
taken apart, the marks after each letter are sorted by their classes, and what can be composed is
composed again.
-/

namespace Keyring
namespace Text

/-- The numbers of a table. -/
def tableNumbers (lines : List String) : List Nat :=
  lines.flatMap fun line => (words line.toList).map hexNumber

/-- A character that is composed of two others. -/
structure Composed where
  whole : Char
  first : Char
  second : Char
deriving DecidableEq, Repr

/-- The composed characters of a table. -/
def composedFrom (last : Nat) : List Nat → List Composed
  | gap :: first :: second :: rest =>
      ⟨Char.ofNat (last + gap), Char.ofNat first, Char.ofNat second⟩ ::
        composedFrom (last + gap) rest
  | _ => []

/-- The composed characters other than the syllables of Hangul. -/
def composedCharacters : List Composed :=
  composedFrom 0 (tableNumbers composedTable)

/-- A range of marks of one class. -/
structure MarkRange where
  low : Nat
  high : Nat
  markClass : Nat
deriving DecidableEq, Repr

/-- The ranges of a table. -/
def markRangesFrom (last : Nat) : List Nat → List MarkRange
  | gap :: size :: markClass :: rest =>
      ⟨last + gap, last + gap + size, markClass⟩ :: markRangesFrom (last + gap + size) rest
  | _ => []

/-- The ranges of marks that are sorted. -/
def markRanges : List MarkRange :=
  markRangesFrom 0 (tableNumbers markClassTable)

/-- The first code point that is a mark. -/
def firstMark : Nat := 0x300

/-- The class of a mark; letters and what else starts a group of marks have the class 0. -/
def markClass (c : Char) : Nat :=
  let n := c.toNat
  if n < firstMark then 0
  else
    match markRanges.find? fun r => r.low ≤ n && n < r.high with
    | some r => r.markClass
    | none => 0

namespace Hangul

/-- The first syllable. -/
def syllables : Nat := 0xac00

/-- The first of the consonants that start a syllable. -/
def leads : Nat := 0x1100

/-- The first vowel. -/
def vowels : Nat := 0x1161

/-- The code point before the consonants that end a syllable. -/
def tails : Nat := 0x11a7

/-- How many consonants start a syllable. -/
def leadCount : Nat := 19

/-- How many vowels there are. -/
def vowelCount : Nat := 21

/-- In how many ways a syllable can end. -/
def tailCount : Nat := 28

/-- The letters of a syllable. -/
def letters? (c : Char) : Option (List Char) :=
  let n := c.toNat
  if syllables ≤ n && n < syllables + leadCount * vowelCount * tailCount then
    let index := n - syllables
    let lead := Char.ofNat (leads + index / (vowelCount * tailCount))
    let vowel := Char.ofNat (vowels + index / tailCount % vowelCount)
    let tail := index % tailCount
    some (if tail = 0 then [lead, vowel] else [lead, vowel, Char.ofNat (tails + tail)])
  else none

/-- The syllable of two letters, or of a syllable without an end and a letter. -/
def syllable? (a b : Char) : Option Char :=
  let m := a.toNat
  let n := b.toNat
  if leads ≤ m && m < leads + leadCount && vowels ≤ n && n < vowels + vowelCount then
    some (Char.ofNat (syllables + ((m - leads) * vowelCount + (n - vowels)) * tailCount))
  else if syllables ≤ m && m < syllables + leadCount * vowelCount * tailCount &&
      (m - syllables) % tailCount == 0 && tails < n && n < tails + tailCount then
    some (Char.ofNat (m + (n - tails)))
  else none

end Hangul

/-- The parts of a character; `depth` bounds how often a part is taken apart again. -/
def partsFrom : Nat → Char → List Char
  | 0, c => [c]
  | depth + 1, c =>
      match composedCharacters.find? fun k => k.whole == c with
      | some k => partsFrom depth k.first ++ [k.second]
      | none => [c]

/-- No character is composed in more steps. -/
def greatestDepth : Nat := 4

/-- The parts of a character, which cannot be taken apart further. -/
def parts (c : Char) : List Char :=
  if c.toNat < 0x80 then [c]
  else (Hangul.letters? c).getD (partsFrom greatestDepth c)

/-- Puts a character before a text whose marks are sorted, and a mark behind those of lower classes. -/
def insertSorted (c : Char) : List Char → List Char
  | [] => [c]
  | d :: rest =>
      if 0 < markClass d && markClass d < markClass c then d :: insertSorted c rest
      else c :: d :: rest

/-- The text with the marks of each group sorted by their classes. -/
def sortMarks (s : List Char) : List Char :=
  s.foldr insertSorted []

/-- The character that two others make up. -/
def compose? (a b : Char) : Option Char :=
  if b.toNat < firstMark then none
  else
    match Hangul.syllable? a b with
    | some c => some c
    | none =>
        (composedCharacters.find? fun k => k.second == b && k.first == a).map Composed.whole

/-- Whether the marks between a letter and a mark, the last one first, keep the two from being
composed. -/
def blocks (between : List Char) (c : Char) : Bool :=
  match between with
  | [] => false
  | d :: _ => markClass c ≤ markClass d

/-- Composes a text after a letter and marks that could not be composed with it, the last one
first. -/
def composeAfter (letter : Char) (between : List Char) : List Char → List Char
  | [] => letter :: between.reverse
  | c :: rest =>
      match if blocks between c then none else compose? letter c with
      | some whole => composeAfter whole between rest
      | none =>
          if markClass c = 0 then letter :: between.reverse ++ composeAfter c [] rest
          else composeAfter letter (c :: between) rest

/-- Composes a text whose marks are sorted.  Marks before the first letter stay as they are. -/
def composeAll : List Char → List Char
  | [] => []
  | c :: rest => if markClass c = 0 then composeAfter c [] rest else c :: composeAll rest

/-- The canonical form of a text. -/
def canonical (s : List Char) : List Char :=
  composeAll (sortMarks (s.flatMap parts))

end Text
end Keyring
