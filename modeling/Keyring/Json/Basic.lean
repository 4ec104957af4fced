import Keyring.Decimal.Shortest

/-!
# JSON values

A value keeps the members of an object in the order in which they were given, because that order is
visible in every line that is printed.  An integer is exact; any other number is kept as the
shortest decimal that reads back as the binary value nearest to what was written.
-/

namespace Keyring

/-- A number: an integer, or a decimal with a fraction or an exponent. -/
inductive Number
  | int (value : Int)
  | decimal (negative : Bool) (magnitude : Decimal.Digits)
deriving DecidableEq, Repr

/-- A JSON value. -/
inductive Json
  | null
  | bool (value : Bool)
  | number (value : Number)
  | string (value : String)
  | array (items : List Json)
  | object (members : List (String × Json))
deriving Repr, BEq, Inhabited

namespace Json

/-- An integer value. -/
def int (n : Int) : Json :=
  .number (.int n)

/-- A natural number as a value. -/
def nat (n : Nat) : Json :=
  .number (.int n)

/-- A text, or null when there is none. -/
def text? (s : Option String) : Json :=
  s.elim .null .string

/-- Gives a member of that name a new value in its old place, or appends it. -/
def put (name : String) (value : Json) : List (String × Json) → List (String × Json)
  | [] => [(name, value)]
  | (n, v) :: rest => if n = name then (n, value) :: rest else (n, v) :: put name value rest

/-- The members with each name once: the place of its first value, and its last value. -/
def distinct (members : List (String × Json)) : List (String × Json) :=
  members.foldl (fun kept (name, value) => put name value kept) []

/-- The value of the member with that name. -/
def member? (name : String) : Json → Option Json
  | .object members => members.lookup name
  | _ => none

mutual

/-- The number of containers around the innermost value. -/
def depth : Json → Nat
  | .array items => depthItems items + 1
  | .object members => depthMembers members + 1
  | _ => 0

/-- The greatest depth among items. -/
def depthItems : List Json → Nat
  | [] => 0
  | v :: rest => max v.depth (depthItems rest)

/-- The greatest depth among members. -/
def depthMembers : List (String × Json) → Nat
  | [] => 0
  | (_, v) :: rest => max v.depth (depthMembers rest)

end

end Json
end Keyring
