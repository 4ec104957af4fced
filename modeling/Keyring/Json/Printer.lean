import Keyring.Json.Basic

/-!
# Writing JSON

There are two layouts.  The compact one has no blanks and stands on one line; the indented one, for
files that people look at, puts every item and member on its own line, two spaces further in than
its container, and writes an empty container as a pair of brackets.

A string is written character by character: quotes, backslashes and the control characters below
U+0020 are escaped, everything else stands for itself.
-/

namespace Keyring
namespace Json

/-- A hexadecimal digit in lower case. -/
def hexDigit (n : Nat) : Char :=
  Nat.digitChar (n % 16)

/-- How a character stands inside a string. -/
def escape (c : Char) : List Char :=
  if c = '"' then ['\\', '"']
  else if c = '\\' then ['\\', '\\']
  else if c = '\x08' then ['\\', 'b']
  else if c = '\t' then ['\\', 't']
  else if c = '\n' then ['\\', 'n']
  else if c = '\x0c' then ['\\', 'f']
  else if c = '\r' then ['\\', 'r']
  else if c.toNat < 0x20 then
    ['\\', 'u', '0', '0', hexDigit (c.toNat / 16), hexDigit c.toNat]
  else [c]

/-- A string in quotes. -/
def quoted (s : String) : List Char :=
  '"' :: s.toList.flatMap escape ++ ['"']

/-- The digits of an integer, with a minus sign for a negative one. -/
def intText : Int → List Char
  | .ofNat n => Nat.toDigits 10 n
  | .negSucc n => '-' :: Nat.toDigits 10 (n + 1)

/-- Where a decimal is written without an exponent: the position of its point, counted from before
its first digit, is above `-5` and at most 16. -/
def positional (point : Int) : Bool :=
  -5 < point && point ≤ 16

/-- The digits of a positive decimal: positional with at least one digit after the point, or with
one digit before the point and a signed exponent. -/
def magnitudeText (d : Decimal.Digits) : List Char :=
  let ds := Nat.toDigits 10 d.digits
  let point : Int := ds.length + d.exponent
  if d.digits = 0 then ['0', '.', '0']
  else if positional point then
    if 0 ≤ d.exponent then ds ++ List.replicate d.exponent.toNat '0' ++ ['.', '0']
    else if 0 < point then ds.take point.toNat ++ '.' :: ds.drop point.toNat
    else '0' :: '.' :: List.replicate point.natAbs '0' ++ ds
  else
    let mantissa := match ds with
      | [c] => [c]
      | c :: rest => c :: '.' :: rest
      | [] => []
    let power := point - 1
    mantissa ++ 'e' :: (if power < 0 then '-' else '+') :: Nat.toDigits 10 power.natAbs

/-- The text of a number. -/
def numberText : Number → List Char
  | .int n => intText n
  | .decimal negative d => if negative then '-' :: magnitudeText d else magnitudeText d

/-- The text of a truth value. -/
def boolText (b : Bool) : List Char :=
  if b then "true".toList else "false".toList

mutual

/-- The compact text of a value. -/
def compactText : Json → List Char
  | .null => "null".toList
  | .bool b => boolText b
  | .number n => numberText n
  | .string s => quoted s
  | .array [] => ['[', ']']
  | .array (v :: rest) => '[' :: compactText v ++ compactItems rest
  | .object [] => ['\x7b', '\x7d']
  | .object ((name, v) :: rest) =>
      '\x7b' :: quoted name ++ ':' :: compactText v ++ compactMembers rest

/-- The further items of an array, with the bracket that closes it. -/
def compactItems : List Json → List Char
  | [] => [']']
  | v :: rest => ',' :: compactText v ++ compactItems rest

/-- The further members of an object, with the brace that closes it. -/
def compactMembers : List (String × Json) → List Char
  | [] => ['\x7d']
  | (name, v) :: rest => ',' :: quoted name ++ ':' :: compactText v ++ compactMembers rest

end

/-- A line break and the indentation of a level. -/
def newline (level : Nat) : List Char :=
  '\n' :: List.replicate (2 * level) ' '

mutual

/-- The indented text of a value that stands at a level. -/
def indentedText (level : Nat) : Json → List Char
  | .null => "null".toList
  | .bool b => boolText b
  | .number n => numberText n
  | .string s => quoted s
  | .array [] => ['[', ']']
  | .array (v :: rest) =>
      '[' :: newline (level + 1) ++ indentedText (level + 1) v ++ indentedItems level rest
  | .object [] => ['\x7b', '\x7d']
  | .object ((name, v) :: rest) =>
      '\x7b' :: newline (level + 1) ++ quoted name ++ ':' :: ' ' :: indentedText (level + 1) v ++
        indentedMembers level rest

/-- The further items of an array at a level, with the bracket that closes it. -/
def indentedItems (level : Nat) : List Json → List Char
  | [] => newline level ++ [']']
  | v :: rest =>
      ',' :: newline (level + 1) ++ indentedText (level + 1) v ++ indentedItems level rest

/-- The further members of an object at a level, with the brace that closes it. -/
def indentedMembers (level : Nat) : List (String × Json) → List Char
  | [] => newline level ++ ['\x7d']
  | (name, v) :: rest =>
      ',' :: newline (level + 1) ++ quoted name ++ ':' :: ' ' :: indentedText (level + 1) v ++
        indentedMembers level rest

end

/-- A value on one line. -/
def compact (v : Json) : String :=
  String.ofList v.compactText

/-- A value laid out over several lines. -/
def indented (v : Json) : String :=
  String.ofList (v.indentedText 0)

end Json
end Keyring
