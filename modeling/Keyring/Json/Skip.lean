import Keyring.Json.Reader

/-!
# Passing over a value

A reader that does not know a member of an object passes over its value.  The value must still be
well formed, but less is asked of it than of a value that is read: it may be nested to any depth,
its numbers may have any size and its strings may hold unpaired surrogates.
-/

namespace Keyring
namespace Json

/-- Passes over the rest of a string; `fuel` bounds the number of its characters. -/
def skipCharsFrom : Nat → List Char → Except Fault (List Char)
  | 0, s => .error (.here .endInString s)
  | _ + 1, [] => .error (.here .endInString [])
  | fuel + 1, c :: rest =>
      if c = '"' then .ok rest
      else if c = '\\' then
        match rest with
        | [] => .error (.here .endInString [])
        | d :: rest =>
            if d = 'u' then
              match readHex rest with
              | .error f => .error f
              | .ok (_, rest) => skipCharsFrom fuel rest
            else if d ∈ ['"', '\\', '/', 'b', 'f', 'n', 'r', 't'] then skipCharsFrom fuel rest
            else .error (.next .badEscape (d :: rest))
      else if c.toNat < 0x20 then .error (.here .controlCharacter (c :: rest))
      else skipCharsFrom fuel rest

/-- Passes over a string after its opening quote. -/
def skipString (s : List Char) : Except Fault (List Char) :=
  skipCharsFrom (s.length + 1) s

/-- Passes over an exponent after its letter. -/
def skipExponent (s : List Char) : Except Fault (List Char) :=
  let s := match s with
    | '+' :: rest => rest
    | '-' :: rest => rest
    | rest => rest
  if startsWithDigit s then .ok (s.dropWhile Char.isDigit) else .error (.next .badNumber s)

/-- Passes over what may follow the digits of a number. -/
def skipAfterDigits (s : List Char) : Except Fault (List Char) :=
  match s with
  | '.' :: rest =>
      if startsWithDigit rest then
        match rest.dropWhile Char.isDigit with
        | 'e' :: rest => skipExponent rest
        | 'E' :: rest => skipExponent rest
        | rest => .ok rest
      else .error (.next .badNumber rest)
  | 'e' :: rest => skipExponent rest
  | 'E' :: rest => skipExponent rest
  | rest => .ok rest

/-- Passes over a number after its sign. -/
def skipNumber : List Char → Except Fault (List Char)
  | [] => .error (.here .badNumber [])
  | c :: rest =>
      if c = '0' then
        if startsWithDigit rest then .error (.next .badNumber rest) else skipAfterDigits rest
      else if c.isDigit then skipAfterDigits (rest.dropWhile Char.isDigit)
      else .error (.next .badNumber (c :: rest))

/-- A container that is being passed over. -/
inductive Container
  | list
  | map
deriving DecidableEq

/-- The start of a value: a scalar that has been passed over, or a container that opens. -/
def skipStart (s : List Char) : Except Fault (Option Container × List Char) :=
  let scalar : Except Fault (List Char) → Except Fault (Option Container × List Char)
    | .error f => .error f
    | .ok rest => .ok (none, rest)
  match skipSpace s with
  | [] => .error (.next .endInValue [])
  | c :: rest =>
      match c with
      | 'n' => scalar (readWord ['u', 'l', 'l'] rest)
      | 't' => scalar (readWord ['r', 'u', 'e'] rest)
      | 'f' => scalar (readWord ['a', 'l', 's', 'e'] rest)
      | '"' => scalar (skipString rest)
      | '-' => scalar (skipNumber rest)
      | '[' => .ok (some .list, rest)
      | '\x7b' => .ok (some .map, rest)
      | _ =>
          if c.isDigit then scalar (skipNumber (c :: rest))
          else .error (.next .valueExpected (c :: rest))

/-- Closes as many containers as end here.  Returns the containers that are still open and the text
of the next entry of the innermost one; `fresh` says that it has no entry yet. -/
def skipCloses : Bool → List Container → List Char → Except Fault (List Container × List Char)
  | _, [], s => .ok ([], s)
  | fresh, top :: below, s =>
      match skipSpace s with
      | [] => .error (.next (if top = .list then .endInList else .endInObject) [])
      | c :: rest =>
          if !fresh && c = ',' then .ok (top :: below, rest)
          else if (c = ']' && top = .list) || (c = '\x7d' && top = .map) then
            skipCloses false below rest
          else if fresh then .ok (top :: below, c :: rest)
          else
            .error (.next (if top = .list then .listEndExpected else .objectEndExpected) (c :: rest))

/-- Passes over the name and the colon of a member. -/
def skipName (s : List Char) : Except Fault (List Char) :=
  match skipSpace s with
  | [] => .error (.next .endInObject [])
  | c :: rest =>
      if c = '"' then
        match skipString rest with
        | .error f => .error f
        | .ok rest => readColon rest
      else .error (.next .keyNotString (c :: rest))

/-- Passes over values until no container is open; `fuel` bounds the number of values. -/
def skipValues : Nat → List Container → List Char → Except Fault (List Char)
  | 0, _, s => .ok s
  | fuel + 1, stack, s =>
      match skipStart s with
      | .error f => .error f
      | .ok (opened, rest) =>
          match skipCloses opened.isSome (opened.toList ++ stack) rest with
          | .error f => .error f
          | .ok ([], rest) => .ok rest
          | .ok (.list :: below, rest) => skipValues fuel (.list :: below) rest
          | .ok (.map :: below, rest) =>
              match skipName rest with
              | .error f => .error f
              | .ok rest => skipValues fuel (.map :: below) rest

/-- Passes over a value. -/
def skipValue (s : List Char) : Except Fault (List Char) :=
  skipValues (s.length + 1) [] s

end Json
end Keyring
