import Keyring.Json.Skip

/-!
# Readers for values of a fixed shape

A codec reads values of one type in two ways: straight from text, where a fault knows its place and
a mismatch is noticed before a breach of the grammar that comes later, and from a value that has
been read already.  A `Shape` describes a type with named fields, from which both readers follow.

Such a type may be given as an object, whose members may come in any order, or as a list that
holds the fields in their own order.  A field that is not required keeps its value in `blank` when
it is absent.  A closed shape refuses members it does not know, an open one passes over them.
-/

namespace Keyring
namespace Json

/-- A reader from text together with a reader from values. -/
structure Codec (α : Type) where
  read : Reader α
  ofJson : Json → Except Mismatch α

/-- Reads a scalar by its kind.  A list or an object is left unread. -/
def readScalar {α : Type} (accept : Found → Except Mismatch α) : Reader α := fun s =>
  match readFound s with
  | .error f => .error f
  | .ok (kind, rest) =>
      match accept kind with
      | .error m => .error (.shape m rest)
      | .ok v => .ok (v, rest)

namespace Codec

/-- The codec of a type whose values are scalars. -/
def scalar {α : Type} (accept : Found → Except Mismatch α) : Codec α where
  read := readScalar accept
  ofJson v := accept (found v)

/-- A text; `expected` names it in messages. -/
def text (expected : String) : Codec String :=
  scalar fun
    | .text s => .ok s
    | kind => .error (.wrongType kind expected)

/-- A truth value. -/
def bool : Codec Bool :=
  scalar fun
    | .bool b => .ok b
    | kind => .error (.wrongType kind "a boolean")

/-- A natural number below `2 ^ 32`. -/
def word32 : Codec Nat :=
  scalar fun
    | .number (.int n) =>
        if 0 ≤ n && n.toNat < Nat.pow 2 32 then .ok n.toNat
        else .error (.wrongValue (.number (.int n)) "u32")
    | kind => .error (.wrongType kind "u32")

/-- A null. -/
def unit : Codec Unit :=
  scalar fun
    | .null => .ok ()
    | kind => .error (.wrongType kind "unit")

/-- A value or null. -/
def optional {α : Type} (c : Codec α) : Codec (Option α) where
  read s :=
    match skipSpace s with
    | 'n' :: rest =>
        match readWord ['u', 'l', 'l'] rest with
        | .error f => .error f
        | .ok rest => .ok (none, rest)
    | rest =>
        match c.read rest with
        | .error f => .error f
        | .ok (v, rest) => .ok (some v, rest)
  ofJson
    | .null => .ok none
    | v => (c.ofJson v).map some

/-- A list of values. -/
def list {α : Type} (c : Codec α) : Codec (List α) where
  read s :=
    match readFound s with
    | .error f => .error f
    | .ok (.list, rest) => readItems c.read rest.tail
    | .ok (kind, rest) => .error (.shape (.wrongType kind "a sequence") rest)
  ofJson
    | .array items => items.mapM c.ofJson
    | v => .error (.wrongType (found v) "a sequence")

/-- The choice with a given name among named choices. -/
def choose {α : Type} (choices : List (String × α)) (name : String) : Except Mismatch α :=
  match choices.lookup name with
  | some v => .ok v
  | none => .error (.unknownVariant name (choices.map Prod.fst))

/-- Reads the end of an object after its only member. -/
def leaveOnly {α : Type} (v : α) : Reader α := fun s =>
  match skipSpace s with
  | [] => .error (.here .endInObject [])
  | d :: rest => if d = '\x7d' then .ok (v, rest) else .error (.here .valueExpected (d :: rest))

/-- One of several named choices: its name, or an object whose one member has that name and the
value null. -/
def choice {α : Type} (choices : List (String × α)) : Codec α where
  read s :=
    let named := readScalar fun
      | .text name => choose choices name
      | kind => .error (.wrongType kind "variant identifier")
    match skipSpace s with
    | [] => .error (.next .endInValue [])
    | c :: rest =>
        if c = '"' then named (c :: rest)
        else if c = '\x7b' then
          match nextKey true rest with
          | .error f => .error f
          | .ok (.close rest) => .error (.next .valueExpected ('\x7d' :: rest))
          | .ok (.entry rest) =>
              match named ('"' :: rest) with
              | .error f => .error f
              | .ok (v, rest) =>
                  match readColon rest with
                  | .error f => .error f
                  | .ok rest =>
                      match unit.read rest with
                      | .error f => .error f
                      | .ok (_, rest) => leaveOnly v rest
        else .error (.next .valueExpected (c :: rest))
  ofJson
    | .string name => choose choices name
    | .object [(name, content)] =>
        match choose choices name with
        | .error m => .error m
        | .ok v => (unit.ofJson content).map fun _ => v
    | .object _ => .error .notSingleMember
    | v => .error (.wrongType (found v) "string or map")

end Codec

/-- A named field of a type: whether it must be given, and how a value for it changes a value of
the type. -/
structure Field (α : Type) where
  name : String
  required : Bool
  read : Reader (α → α)
  ofJson : Json → Except Mismatch (α → α)

/-- The field that a codec reads and a function stores. -/
def Field.of {α β : Type} (name : String) (required : Bool) (codec : Codec β)
    (store : β → α → α) : Field α where
  name := name
  required := required
  read s :=
    match codec.read s with
    | .error f => .error f
    | .ok (v, rest) => .ok (store v, rest)
  ofJson v := (codec.ofJson v).map store

/-- A type with named fields. -/
structure Shape (α : Type) where
  title : String
  blank : α
  closed : Bool
  fields : List (Field α)

namespace Shape

variable {α : Type}

/-- The field of that name. -/
def field? (shape : Shape α) (name : String) : Option (Field α) :=
  shape.fields.find? fun f => f.name == name

/-- How messages name a list of the wrong length. -/
def counted (shape : Shape α) : String :=
  let n := shape.fields.length
  shape.title ++ " with " ++ toString n ++ (if n = 1 then " element" else " elements")

/-- The first required field that has not been given. -/
def missing? (shape : Shape α) (given : List String) : Option String :=
  (shape.fields.find? fun f => f.required && !given.contains f.name).map Field.name

/-- The mismatch of a member that the shape does not know. -/
def unknown (shape : Shape α) (name : String) : Mismatch :=
  .unknownField name (shape.fields.map Field.name)

/-- A mismatch inside an object is placed at the next token, after it if it closes the object. -/
def leaveObject (m : Mismatch) (s : List Char) : Fault :=
  match skipSpace s with
  | '\x7d' :: rest => .shape m rest
  | rest => .shape m rest

/-- Reads the members of an object after its brace.  `given` names the fields that have a value;
`fuel` bounds the number of members. -/
def readFieldsFrom (shape : Shape α) : Nat → Bool → List String → α → Reader α
  | 0, _, _, _, s => .error (.here .endInObject s)
  | fuel + 1, first, given, value, s =>
      match nextKey first s with
      | .error f => .error f
      | .ok (.close rest) =>
          match shape.missing? given with
          | some name => .error (.shape (.missingField name) rest)
          | none => .ok (value, rest)
      | .ok (.entry rest) =>
          match readString rest with
          | .error f => .error f
          | .ok (name, rest) =>
              match shape.field? name with
              | none =>
                  if shape.closed then .error (leaveObject (shape.unknown name) rest)
                  else
                    match readColon rest with
                    | .error f => .error f
                    | .ok rest =>
                        match skipValue rest with
                        | .error f => .error f
                        | .ok rest => readFieldsFrom shape fuel false given value rest
              | some field =>
                  if given.contains name then
                    .error (leaveObject (.repeatedField name) rest)
                  else
                    match readColon rest with
                    | .error f => .error f
                    | .ok rest =>
                        match field.read rest with
                        | .error f => .error f
                        | .ok (store, rest) =>
                            readFieldsFrom shape fuel false (name :: given) (store value) rest

/-- Reads the end of a list that has all its fields. -/
def leaveList (value : α) : Reader α := fun s =>
  match skipSpace s with
  | [] => .error (.next .endInList [])
  | c :: rest =>
      if c = ']' then .ok (value, rest)
      else if c = ',' then
        match skipSpace rest with
        | ']' :: rest => .error (.next .trailingComma (']' :: rest))
        | rest => .error (.next .trailingCharacters rest)
      else .error (.next .trailingCharacters (c :: rest))

/-- Reads the fields of a list after its bracket, from the field with the number `index` on. -/
def readSlotsFrom (shape : Shape α) : List (Field α) → Nat → α → Reader α
  | [], _, value, s => leaveList value s
  | field :: fields, index, value, s =>
      match nextItem (index == 0) s with
      | .error f => .error f
      | .ok (.close rest) =>
          match (field :: fields).findIdx? Field.required with
          | some i => .error (.shape (.wrongLength (index + i) shape.counted) rest)
          | none => .ok (value, rest)
      | .ok (.entry rest) =>
          match field.read rest with
          | .error f => .error f
          | .ok (store, rest) => readSlotsFrom shape fields (index + 1) (store value) rest

/-- Takes the members of an object one by one. -/
def ofMembers (shape : Shape α) (given : List String) (value : α) :
    List (String × Json) → Except Mismatch α
  | [] =>
      match shape.missing? given with
      | some name => .error (.missingField name)
      | none => .ok value
  | (name, v) :: rest =>
      match shape.field? name with
      | none =>
          if shape.closed then .error (shape.unknown name) else shape.ofMembers given value rest
      | some field =>
          if given.contains name then .error (.repeatedField name)
          else
            match field.ofJson v with
            | .error m => .error m
            | .ok store => shape.ofMembers (name :: given) (store value) rest

/-- Takes the items of a list one by one; `length` is the length of the whole list. -/
def ofItems (shape : Shape α) (length : Nat) :
    List (Field α) → Nat → α → List Json → Except Mismatch α
  | [], _, value, [] => .ok value
  | [], _, _, _ :: _ => .error (.wrongLength length "fewer elements in array")
  | field :: fields, index, value, [] =>
      match (field :: fields).findIdx? Field.required with
      | some i => .error (.wrongLength (index + i) shape.counted)
      | none => .ok value
  | field :: fields, index, value, v :: rest =>
      match field.ofJson v with
      | .error m => .error m
      | .ok store => shape.ofItems length fields (index + 1) (store value) rest

/-- The codec of a shape. -/
def codec (shape : Shape α) : Codec α where
  read s :=
    match readFound s with
    | .error f => .error f
    | .ok (.map, rest) =>
        shape.readFieldsFrom (rest.length + 1) true [] shape.blank rest.tail
    | .ok (.list, rest) => shape.readSlotsFrom shape.fields 0 shape.blank rest.tail
    | .ok (kind, rest) => .error (.shape (.wrongType kind shape.title) rest)
  ofJson
    | .object members => shape.ofMembers [] shape.blank members
    | .array items => shape.ofItems items.length shape.fields 0 shape.blank items
    | v => .error (.wrongType (found v) shape.title)

end Shape

/-- Reads a document of a fixed shape. -/
def Codec.parse {α : Type} (c : Codec α) (document : String) : Except Fault α :=
  readDocument c.read document.toList

end Json
end Keyring
