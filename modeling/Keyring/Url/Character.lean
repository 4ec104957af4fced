import Keyring.Text.Canonical
import Keyring.Text.Ranges
import Keyring.Url.CharacterTables

/-!
# The characters of domain names

A domain name is brought into its ASCII form before it is used.  What decides whether it can be are
properties of its characters: some are refused, some are dropped, some stand for ASCII characters,
and the direction and the joining behaviour of others restrict what may stand beside them.
-/

namespace Keyring
namespace Url

open Text (Ranges)

/-- Characters that no domain name may hold. -/
def disallowed : Ranges := .ofTable disallowedTable

/-- Characters that stand for other text. -/
def replaced : Ranges := .ofTable replacedTable

/-- Characters that are dropped. -/
def ignored : Ranges := .ofTable ignoredTable

/-- Characters that attach to the one before them. -/
def marks : Ranges := .ofTable markTable

/-- Letters that are written from right to left. -/
def rightToLeft : Ranges := .ofTable rightToLeftTable

/-- Digits that are written among Arabic letters. -/
def arabicNumbers : Ranges := .ofTable arabicNumberTable

/-- Digits outside ASCII that are written from left to right everywhere. -/
def europeanNumbers : Ranges := .ofTable europeanNumberTable

/-- Characters outside ASCII without a direction of their own. -/
def neutrals : Ranges := .ofTable neutralTable

/-- Marks that take the direction of the character before them. -/
def nonspacing : Ranges := .ofTable nonspacingTable

/-- Letters that join to the letter after them. -/
def joinsAfter : Ranges :=
  ⟨(Ranges.ofTable joinsLeftTable).spans ++ (Ranges.ofTable joinsBothTable).spans⟩

/-- Letters that join to the letter before them. -/
def joinsBefore : Ranges :=
  ⟨(Ranges.ofTable joinsRightTable).spans ++ (Ranges.ofTable joinsBothTable).spans⟩

/-- Characters that joining passes over. -/
def transparent : Ranges := .ofTable transparentTable

/-- The class of the signs that take the vowel from a consonant. -/
def viramaClass : Nat := 9

/-- Whether a character is a sign that takes the vowel from a consonant. -/
def isVirama (c : Char) : Bool :=
  Text.markClass c == viramaClass

/-- A run of characters that stand for one character each. -/
structure ReplacementRun where
  start : Nat
  size : Nat
  step : Nat
  target : Nat
deriving DecidableEq, Repr

namespace ReplacementRun

/-- How far the characters of a run are apart. -/
def stride (r : ReplacementRun) : Nat :=
  if r.step = 2 then 2 else 1

/-- What a code point stands for, if it is in the run. -/
def target? (r : ReplacementRun) (n : Nat) : Option Char :=
  let index := (n - r.start) / r.stride
  if r.start ≤ n && index < r.size && (n - r.start) % r.stride == 0 then
    some (Char.ofNat (r.target + index * r.step))
  else none

end ReplacementRun

/-- The runs of a table. -/
def replacementRunsFrom (last : Nat) : List Nat → List ReplacementRun
  | gap :: size :: step :: target :: rest =>
      ⟨last + gap, size, step, target⟩ :: replacementRunsFrom (last + gap) rest
  | _ => []

/-- The runs of characters that stand for one character each. -/
def replacementRuns : List ReplacementRun :=
  replacementRunsFrom 0 (Text.tableNumbers replacementRunTable)

/-- The sequences of a table; `fuel` bounds their number. -/
def replacementSequencesFrom : Nat → Nat → List Nat → List (Nat × List Char)
  | fuel + 1, last, gap :: length :: rest =>
      (last + gap, (rest.take length).map Char.ofNat) ::
        replacementSequencesFrom fuel (last + gap) (rest.drop length)
  | _, _, _ => []

/-- The characters that stand for a sequence. -/
def replacementSequences : List (Nat × List Char) :=
  let numbers := Text.tableNumbers replacementSequenceTable
  replacementSequencesFrom numbers.length 0 numbers

/-- The text that a character stands for. -/
def replacement (c : Char) : List Char :=
  let n := c.toNat
  if n < 0x80 then [c.toLower]
  else if ignored.contains n then []
  else if !replaced.contains n then [c]
  else
    match replacementRuns.findSome? fun r => r.target? n with
    | some d => [d]
    | none => (replacementSequences.lookup n).getD [c]

/-- ASCII characters that no host may hold. -/
def isForbidden (c : Char) : Bool :=
  c.toNat ≤ 0x20 || c.toNat == 0x7f ||
    ['%', '#', '/', ':', '<', '>', '?', '@', '[', '\\', ']', '^', '|'].contains c

/-- Whether a character may stand in a name once every character has been replaced. -/
def isAllowed (c : Char) : Bool :=
  if c.toNat < 0x80 then !isForbidden c else !disallowed.contains c.toNat

/-- Whether a character may stand in a name and is neither replaced nor dropped. -/
def isStable (c : Char) : Bool :=
  isAllowed c && !c.isUpper && !replaced.contains c.toNat && !ignored.contains c.toNat

/-- The direction of a character. -/
inductive Direction
  | left
  | right
  | europeanNumber
  | arabicNumber
  | neutral
  | nonspacing
deriving DecidableEq, Repr

/-- The direction of a character in a domain name. -/
def direction (c : Char) : Direction :=
  let n := c.toNat
  if n < 0x80 then
    if c.isDigit then .europeanNumber else if c.isAlpha then .left else .neutral
  else if rightToLeft.contains n then .right
  else if arabicNumbers.contains n then .arabicNumber
  else if europeanNumbers.contains n then .europeanNumber
  else if neutrals.contains n then .neutral
  else if nonspacing.contains n then .nonspacing
  else .left

end Url
end Keyring
