import Keyring.Json.Fault

/-!
# The tokens of a document

Each function here reads one token from the front of the unread text and returns what is left, or
the first fault.  The rules are those of JSON with three points worth stating.  Only the space, the
tab, the newline and the carriage return separate tokens.  A `\u` escape needs four bytes before it
is looked at, and escaped surrogates must come in pairs.  A number without fraction and exponent is
exact as long as it fits 64 bits; every other number is rounded to a binary value as it is read,
where digits beyond the 64-bit range count only as powers of ten.
-/

namespace Keyring
namespace Json

/-- A function that reads a value from the front of a text. -/
abbrev Reader (α : Type) := List Char → Except Fault (α × List Char)

/-- Whether a character separates tokens. -/
def isSpace (c : Char) : Bool :=
  c == ' ' || c == '\n' || c == '\t' || c == '\r'

/-- The text from its first token on. -/
def skipSpace (s : List Char) : List Char :=
  s.dropWhile isSpace

/-- Reads the rest of a word. -/
def readWord : List Char → List Char → Except Fault (List Char)
  | [], s => .ok s
  | _ :: _, [] => .error (.here .endInValue [])
  | w :: word, c :: s =>
      if c = w then readWord word s else .error (.next .wordExpected (c :: s))

/-- The fault of a `\u` escape without four digits: the text ends too early, or its first four bytes
are something else. -/
def hexFault (s : List Char) : Fault :=
  if byteLength s < 4 then .here .endInString [] else ⟨.malformed .badEscape, s, 4⟩

/-- Reads the four digits of a `\u` escape. -/
def readHex (s : List Char) : Except Fault (Nat × List Char) :=
  match s with
  | a :: b :: c :: d :: rest =>
      match Text.hexValue? a, Text.hexValue? b, Text.hexValue? c, Text.hexValue? d with
      | some a, some b, some c, some d => .ok (((a * 16 + b) * 16 + c) * 16 + d, rest)
      | _, _, _, _ => .error (hexFault s)
  | _ => .error (hexFault s)

/-- Whether a code unit opens a surrogate pair. -/
def isHighSurrogate (n : Nat) : Bool :=
  0xd800 ≤ n && n < 0xdc00

/-- Whether a code unit closes a surrogate pair. -/
def isLowSurrogate (n : Nat) : Bool :=
  0xdc00 ≤ n && n < 0xe000

/-- Reads the second half of a surrogate pair. -/
def readLowHalf (high : Nat) : Reader Char
  | [] => .error (.here .endInString [])
  | '\\' :: [] => .error (.here .endInString [])
  | '\\' :: 'u' :: rest =>
      match readHex rest with
      | .error f => .error f
      | .ok (low, rest) =>
          if isLowSurrogate low then
            .ok (Char.ofNat (0x10000 + (high - 0xd800) * 0x400 + (low - 0xdc00)), rest)
          else .error (.here .loneSurrogate rest)
  | '\\' :: rest => .error (.next .escapeCutShort rest)
  | rest => .error (.next .escapeCutShort rest)

/-- Reads the code point of a `\u` escape. -/
def readPoint (s : List Char) : Except Fault (Char × List Char) :=
  match readHex s with
  | .error f => .error f
  | .ok (n, rest) =>
      if isLowSurrogate n then .error (.here .loneSurrogate rest)
      else if isHighSurrogate n then readLowHalf n rest
      else .ok (Char.ofNat n, rest)

/-- Reads an escape after its backslash. -/
def readEscape : Reader Char
  | [] => .error (.here .endInString [])
  | c :: rest =>
      match c with
      | '"' => .ok ('"', rest)
      | '\\' => .ok ('\\', rest)
      | '/' => .ok ('/', rest)
      | 'b' => .ok ('\x08', rest)
      | 'f' => .ok ('\x0c', rest)
      | 'n' => .ok ('\n', rest)
      | 'r' => .ok ('\r', rest)
      | 't' => .ok ('\t', rest)
      | 'u' => readPoint rest
      | _ => .error (.next .badEscape (c :: rest))

/-- Reads the characters of a string up to its closing quote; `fuel` bounds their number and `read`
holds those before, the last one first. -/
def readCharsFrom : Nat → List Char → Reader (List Char)
  | 0, _, s => .error (.here .endInString s)
  | _ + 1, _, [] => .error (.here .endInString [])
  | fuel + 1, read, c :: rest =>
      if c = '"' then .ok (read.reverse, rest)
      else if c = '\\' then
        match readEscape rest with
        | .error f => .error f
        | .ok (d, rest) => readCharsFrom fuel (d :: read) rest
      else if c.toNat < 0x20 then .error (.next .controlCharacter (c :: rest))
      else readCharsFrom fuel (c :: read) rest

/-- Reads a string after its opening quote. -/
def readString (s : List Char) : Except Fault (String × List Char) :=
  match readCharsFrom (s.length + 1) [] s with
  | .error f => .error f
  | .ok (cs, rest) => .ok (String.ofList cs, rest)

/-- Whether the unread text starts with a digit. -/
def startsWithDigit : List Char → Bool
  | c :: _ => c.isDigit
  | [] => false

/-- The greatest integer that is read exactly. -/
def greatestExact : Nat := Nat.pow 2 64 - 1

/-- Adds digits to a number as long as it stays exact.  Returns the number, how many digits were
added, and the unread text. -/
def addDigits (number added : Nat) : List Char → Nat × Nat × List Char
  | [] => (number, added, [])
  | c :: rest =>
      if c.isDigit then
        let grown := number * 10 + (c.toNat - 0x30)
        if grown ≤ greatestExact then addDigits grown (added + 1) rest
        else (number, added, c :: rest)
      else (number, added, c :: rest)

/-- The number that decimal digits and an exponent of ten denote. -/
def roundedNumber (negative : Bool) (digits : Nat) (exponent : Int) : Reader Number := fun rest =>
  match Decimal.Binary64.ofDecimal? digits exponent with
  | some x => .ok (.decimal negative x.shortest, rest)
  | none => .error (.here .numberOutOfRange rest)

/-- The greatest magnitude of an exponent that is added up. -/
def greatestExponent : Nat := Nat.pow 2 31 - 1

/-- Adds digits to an exponent; `none` when it grows too large. -/
def addExponentDigits (number : Nat) : List Char → Option Nat × List Char
  | [] => (some number, [])
  | c :: rest =>
      if c.isDigit then
        let grown := number * 10 + (c.toNat - 0x30)
        if grown ≤ greatestExponent then addExponentDigits grown rest else (none, rest)
      else (some number, c :: rest)

/-- Reads an exponent after its letter. -/
def readExponent (negative : Bool) (digits : Nat) (exponent : Int) : Reader Number := fun s =>
  let (down, s) := match s with
    | '+' :: rest => (false, rest)
    | '-' :: rest => (true, rest)
    | rest => (false, rest)
  match s with
  | [] => .error (.here .endInValue [])
  | c :: rest =>
      if c.isDigit then
        match addExponentDigits (c.toNat - 0x30) rest with
        | (some e, rest) =>
            roundedNumber negative digits (if down then exponent - e else exponent + e) rest
        | (none, rest) =>
            if digits ≠ 0 && !down then .error (.here .numberOutOfRange rest)
            else .ok (.decimal negative ⟨0, 0⟩, rest.dropWhile Char.isDigit)
      else .error (.next .badNumber (c :: rest))

/-- Ends a number with a fraction, or goes on with its exponent. -/
def endFraction (negative : Bool) (digits : Nat) (exponent : Int) : Reader Number := fun s =>
  match s with
  | 'e' :: rest => readExponent negative digits exponent rest
  | 'E' :: rest => readExponent negative digits exponent rest
  | rest => roundedNumber negative digits exponent rest

/-- Reads a fraction after its point. -/
def readFraction (negative : Bool) (digits : Nat) (exponent : Int) : Reader Number := fun s =>
  let (digits, added, rest) := addDigits digits 0 s
  let exponent := exponent - added
  if startsWithDigit rest then endFraction negative digits exponent (rest.dropWhile Char.isDigit)
  else if added = 0 then
    .error (.next (if rest.isEmpty then .endInValue else .badNumber) rest)
  else endFraction negative digits exponent rest

/-- An integer: negative zero and integers beyond the 64-bit range are rounded. -/
def integer (negative : Bool) (digits : Nat) : Reader Number := fun rest =>
  if !negative then .ok (.int digits, rest)
  else if digits = 0 || digits > Nat.pow 2 63 then roundedNumber true digits 0 rest
  else .ok (.int (-digits), rest)

/-- Reads what follows the exact digits of a number. -/
def readAfterDigits (negative : Bool) (digits : Nat) : Reader Number := fun s =>
  match s with
  | '.' :: rest => readFraction negative digits 0 rest
  | 'e' :: rest => readExponent negative digits 0 rest
  | 'E' :: rest => readExponent negative digits 0 rest
  | rest => integer negative digits rest

/-- Reads what follows the exact digits of an integer that has more digits than fit. -/
def readLongInteger (negative : Bool) (digits : Nat) : Reader Number := fun s =>
  let dropped := (s.takeWhile Char.isDigit).length
  match s.dropWhile Char.isDigit with
  | '.' :: rest => readFraction negative digits dropped rest
  | rest => endFraction negative digits dropped rest

/-- Reads a number after its sign. -/
def readNumber (negative : Bool) : Reader Number
  | [] => .error (.here .endInValue [])
  | c :: rest =>
      if c = '0' then
        if startsWithDigit rest then .error (.next .badNumber rest)
        else readAfterDigits negative 0 rest
      else if c.isDigit then
        let (digits, _, rest) := addDigits (c.toNat - 0x30) 0 rest
        if startsWithDigit rest then readLongInteger negative digits rest
        else readAfterDigits negative digits rest
      else .error (.next .badNumber (c :: rest))

/-- The unread text as a value of the given kind. -/
def finishWord (f : Found) (word s : List Char) : Except Fault (Found × List Char) :=
  match readWord word s with
  | .error e => .error e
  | .ok rest => .ok (f, rest)

/-- Reads a scalar, or finds out that a list or an object comes next and stops before it. -/
def readFound (s : List Char) : Except Fault (Found × List Char) :=
  match skipSpace s with
  | [] => .error (.next .endInValue [])
  | c :: rest =>
      match c with
      | 'n' => finishWord .null ['u', 'l', 'l'] rest
      | 't' => finishWord (.bool true) ['r', 'u', 'e'] rest
      | 'f' => finishWord (.bool false) ['a', 'l', 's', 'e'] rest
      | '"' =>
          match readString rest with
          | .error f => .error f
          | .ok (text, rest) => .ok (.text text, rest)
      | '[' => .ok (.list, c :: rest)
      | '\x7b' => .ok (.map, c :: rest)
      | '-' =>
          match readNumber true rest with
          | .error f => .error f
          | .ok (n, rest) => .ok (.number n, rest)
      | _ =>
          if c.isDigit then
            match readNumber false (c :: rest) with
            | .error f => .error f
            | .ok (n, rest) => .ok (.number n, rest)
          else .error (.next .valueExpected (c :: rest))

end Json
end Keyring
