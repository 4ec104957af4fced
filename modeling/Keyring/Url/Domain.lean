import Keyring.Url.Character
import Keyring.Url.Punycode

/-!
# Domain names

A domain name is a sequence of labels with dots between them; empty labels are allowed.  Its
characters are replaced first, and the text is brought into its canonical form.  Then every label must
hold allowed characters only, must not start with a mark, and must use the two joiners where they have
an effect.  A label that starts with `xn--` is checked in its decoded form, which must hold a character
outside ASCII and be what it would be replaced by.  When a label is written from right to left, all
labels obey the rule that keeps such names readable.
-/

namespace Keyring
namespace Url

/-- The parts of a text between the occurrences of a character. -/
def splitOn (separator : Char) : List Char → List (List Char)
  | [] => [[]]
  | c :: rest =>
      if c = separator then [] :: splitOn separator rest
      else match splitOn separator rest with
        | [] => [[c]]
        | part :: parts => (c :: part) :: parts

/-- The marker of an encoded label. -/
def marker : List Char := ['x', 'n', '-', '-']

/-- The greatest length of the encoded part of a label. -/
def greatestEncodedLength : Nat := 2000

/-- The greatest length of a label with characters outside ASCII. -/
def greatestLength : Nat := 1000

/-- Whether a text is its own replacement and canonical. -/
def isSettled (label : List Char) : Bool :=
  label.all isStable && Text.canonical label == label

/-- The form in which a label is checked, or nothing when it cannot be decoded. -/
def decodedLabel? (label : List Char) : Option (List Char) :=
  if marker.isPrefixOf label then
    let encoded := label.drop marker.length
    if encoded.length > greatestEncodedLength then none
    else
      match Punycode.decode? encoded with
      | some decoded =>
          if decoded.any (fun c => 0x80 ≤ c.toNat) && isSettled decoded then some decoded else none
      | none => none
  else if label.all isAllowed then some label
  else none

/-- Whether a joiner has an effect, given the characters before it, the nearest first, and those
after it. -/
def joinerFits (joiner : Char) (before after : List Char) : Bool :=
  let follows (set : Text.Ranges) (cs : List Char) : Bool :=
    match cs.dropWhile (fun c => transparent.contains c.toNat) with
    | c :: _ => set.contains c.toNat
    | [] => false
  let afterVirama := match before with
    | c :: _ => isVirama c
    | [] => false
  afterVirama || (joiner == '\u200c' && follows joinsAfter before && follows joinsBefore after)

/-- Whether all joiners of a label have an effect; `before` holds the characters before, the nearest
first. -/
def joinersFit (before : List Char) : List Char → Bool
  | [] => true
  | c :: rest =>
      ((c != '\u200c' && c != '\u200d') || joinerFits c before rest) && joinersFit (c :: before) rest

/-- Whether a label starts with a mark. -/
def startsWithMark : List Char → Bool
  | c :: _ => marks.contains c.toNat
  | [] => false

/-- Whether a decoded label is not too long to be encoded. -/
def lengthFits (label : List Char) : Bool :=
  label.length ≤ greatestLength || label.all fun c => c.toNat < 0x80

/-- Whether a decoded label is well formed. -/
def labelFits (label : List Char) : Bool :=
  !startsWithMark label && joinersFit [] label && lengthFits label

/-- Whether a direction makes a name one that is written from right to left. -/
def Direction.turns : Direction → Bool
  | .right => true
  | .arabicNumber => true
  | _ => false

/-- The last direction that is not a nonspacing mark. -/
def lastDirection? (directions : List Direction) : Option Direction :=
  (directions.reverse.dropWhile (· == .nonspacing)).head?

/-- The rule for labels of a name with right-to-left characters. -/
def directionsFit (directions : List Direction) : Bool :=
  match directions.head? with
  | none => true
  | some .right =>
      directions.all (· != .left) &&
        !(directions.contains .europeanNumber && directions.contains .arabicNumber) &&
        (match lastDirection? directions with
          | some .right => true
          | some .europeanNumber => true
          | some .arabicNumber => true
          | _ => false)
  | some .left =>
      directions.all (fun d => !d.turns) &&
        (match lastDirection? directions with
          | some .left => true
          | some .europeanNumber => true
          | _ => false)
  | some _ => false

/-- The labels of a name after replacement. -/
def labels (name : List Char) : List (List Char) :=
  splitOn '.' (Text.canonical (name.flatMap replacement))

/-- Whether labels in the form in which they are checked make up a name. -/
def labelsFit (labels : List (List Char)) : Bool :=
  let directions := labels.map (·.map direction)
  labels.all labelFits &&
    (!directions.any (·.any Direction.turns) || directions.all directionsFit)

/-- The labels of a domain name in lower case, or nothing when it is not one.  Labels with
characters outside ASCII are left unencoded. -/
def domain? (name : List Char) : Option (List (List Char)) :=
  let labels := labels name
  match labels.mapM decodedLabel? with
  | some decoded => if labelsFit decoded then some labels else none
  | none => none

end Url
end Keyring
