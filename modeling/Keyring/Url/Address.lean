import Keyring.Url.Domain

/-!
# Addresses in the place of a host

A name whose last label is a number is an IPv4 address, and it must then be a valid one: at most
four numbers, in decimal, octal or hexadecimal notation, the last of which fills the bytes that the
others leave.  A host in square brackets is an IPv6 address: eight groups of hexadecimal digits, of
which a run of at least one may be left out, and of which the last two may be written as four
decimal bytes.
-/

namespace Keyring
namespace Url

/-- The number that digits in a base denote, if all of them are digits of that base. -/
def numberIn? (base : Nat) (s : List Char) : Option Nat :=
  s.foldl
    (fun sum c =>
      match sum, Text.hexValue? c with
      | some n, some d => if d < base then some (n * base + d) else none
      | _, _ => none)
    (some 0)

/-- Reads a number of an IPv4 address. -/
def ipv4Number? (s : List Char) : Option Nat :=
  match s with
  | [] => none
  | '0' :: 'x' :: rest => numberIn? 16 rest
  | '0' :: 'X' :: rest => numberIn? 16 rest
  | '0' :: c :: rest => numberIn? 8 (c :: rest)
  | s => numberIn? 10 s

/-- The parts of a name without an empty one at its end. -/
def withoutEmptyEnd (parts : List (List Char)) : List (List Char) :=
  match parts.getLast? with
  | some [] => parts.dropLast
  | _ => parts

/-- Whether the last part that counts is a number. -/
def endsInNumber (parts : List (List Char)) : Bool :=
  match (withoutEmptyEnd parts).getLast? with
  | none => false
  | some last => (!last.isEmpty && last.all Char.isDigit) || (ipv4Number? last).isSome

/-- Whether the parts are the numbers of an IPv4 address. -/
def isIpv4 (parts : List (List Char)) : Bool :=
  let parts := withoutEmptyEnd parts
  match parts.mapM ipv4Number? with
  | some numbers =>
      numbers.length ≤ 4 && numbers.dropLast.all (· ≤ 255) &&
        (match numbers.getLast? with
          | some last => last < Nat.pow 256 (5 - numbers.length)
          | none => false)
  | none => false

/-- Whether a text is a decimal byte without leading zeros. -/
def isByte (s : List Char) : Bool :=
  match s with
  | [] => false
  | ['0'] => true
  | '0' :: _ => false
  | s => s.all Char.isDigit && s.length ≤ 3 && Nat.ofDigitChars 10 s 0 ≤ 255

/-- Whether a text is a group of an IPv6 address. -/
def isGroup (s : List Char) : Bool :=
  !s.isEmpty && s.length ≤ 4 && s.all fun c => (Text.hexValue? c).isSome

/-- Whether a text is four decimal bytes. -/
def isDottedBytes (s : List Char) : Bool :=
  let bytes := splitOn '.' s
  bytes.length == 4 && bytes.all isByte

/-- The number of groups that fields stand for, if each is one; the last may stand for two. -/
def groupCount? : List (List Char) → Option Nat
  | [] => some 0
  | [last] => if isGroup last then some 1 else if isDottedBytes last then some 2 else none
  | field :: rest => if isGroup field then (groupCount? rest).map (· + 1) else none

/-- The fields with one of two empty fields at their start, and one of two at their end, taken
away; nothing when an empty field stands there alone. -/
def withoutOuterColons (fields : List (List Char)) : Option (List (List Char)) :=
  let start := match fields with
    | [] :: [] :: rest => some ([] :: rest)
    | [] :: _ => none
    | fields => some fields
  match start with
  | none => none
  | some fields =>
      match fields.reverse with
      | [] :: [] :: rest => some ([] :: rest).reverse
      | [] :: _ => none
      | _ => some fields

/-- Whether fields make up an IPv6 address: an empty one stands for the groups that are left out. -/
def fieldsFit (fields : List (List Char)) : Bool :=
  let before := fields.takeWhile (!·.isEmpty)
  match fields.dropWhile (!·.isEmpty) with
  | [] => groupCount? fields == some 8
  | _ :: after =>
      before.all isGroup &&
        (match groupCount? after with
          | some n => before.length + n ≤ 7
          | none => false)

/-- Whether a text is an IPv6 address. -/
def isIpv6 (s : List Char) : Bool :=
  match withoutOuterColons (splitOn ':' s) with
  | some fields => fieldsFit fields
  | none => false

end Url
end Keyring
