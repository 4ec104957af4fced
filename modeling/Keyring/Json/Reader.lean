import Keyring.Json.Token

/-!
# Reading documents

The reader of arbitrary values.  Containers may be nested 127 deep.  `nextItem` and `nextKey` hold
the rules about commas and closing brackets; every reader of lists and objects, also of those with
a fixed shape, goes through them, so that the same text always gives the same fault.
-/

namespace Keyring
namespace Json

/-- What comes next inside a container: a further entry, or the end of the container. -/
inductive Next
  | entry (rest : List Char)
  | close (rest : List Char)

/-- Finds the next item of a list.  The text of an item starts at its first token. -/
def nextItem (first : Bool) (s : List Char) : Except Fault Next :=
  match skipSpace s with
  | [] => .error (.next .endInList [])
  | c :: rest =>
      if c = ']' then .ok (.close rest)
      else if first then .ok (.entry (c :: rest))
      else if c = ',' then
        match skipSpace rest with
        | [] => .error (.next .endInValue [])
        | d :: rest =>
            if d = ']' then .error (.next .trailingComma (d :: rest)) else .ok (.entry (d :: rest))
      else .error (.next .listEndExpected (c :: rest))

/-- Finds the next member of an object.  The text of a member starts after the opening quote of its
name. -/
def nextKey (first : Bool) (s : List Char) : Except Fault Next :=
  match skipSpace s with
  | [] => .error (.next .endInObject [])
  | c :: rest =>
      if c = '\x7d' then .ok (.close rest)
      else if first then
        if c = '"' then .ok (.entry rest) else .error (.next .keyNotString (c :: rest))
      else if c = ',' then
        match skipSpace rest with
        | [] => .error (.next .endInValue [])
        | d :: rest =>
            if d = '"' then .ok (.entry rest)
            else if d = '\x7d' then .error (.next .trailingComma (d :: rest))
            else .error (.next .keyNotString (d :: rest))
      else .error (.next .objectEndExpected (c :: rest))

/-- Reads the colon between a name and its value. -/
def readColon (s : List Char) : Except Fault (List Char) :=
  match skipSpace s with
  | [] => .error (.next .endInObject [])
  | c :: rest => if c = ':' then .ok rest else .error (.next .colonExpected (c :: rest))

/-- Reads the items of a list after its bracket; `fuel` bounds their number and `read` holds those
before, the last one first. -/
def readItemsFrom {α : Type} (item : Reader α) :
    Nat → Bool → List α → Reader (List α)
  | 0, _, _, s => .error (.here .endInList s)
  | fuel + 1, first, read, s =>
      match nextItem first s with
      | .error f => .error f
      | .ok (.close rest) => .ok (read.reverse, rest)
      | .ok (.entry rest) =>
          match item rest with
          | .error f => .error f
          | .ok (v, rest) => readItemsFrom item fuel false (v :: read) rest

/-- Reads the items of a list after its bracket. -/
def readItems {α : Type} (item : Reader α) : Reader (List α) := fun s =>
  readItemsFrom item (s.length + 1) true [] s

/-- Reads the members of an object after its brace; `fuel` bounds their number and `read` holds
those before, the last one first. -/
def readMembersFrom (value : Reader Json) :
    Nat → Bool → List (String × Json) → Reader (List (String × Json))
  | 0, _, _, s => .error (.here .endInObject s)
  | fuel + 1, first, read, s =>
      match nextKey first s with
      | .error f => .error f
      | .ok (.close rest) => .ok (read.reverse, rest)
      | .ok (.entry rest) =>
          match readString rest with
          | .error f => .error f
          | .ok (name, rest) =>
              match readColon rest with
              | .error f => .error f
              | .ok rest =>
                  match value rest with
                  | .error f => .error f
                  | .ok (v, rest) => readMembersFrom value fuel false ((name, v) :: read) rest

/-- Reads the members of an object after its brace. -/
def readMembers (value : Reader Json) : Reader (List (String × Json)) := fun s =>
  readMembersFrom value (s.length + 1) true [] s

/-- Reads a value, the entries of a container with the reader `inner`; without one a container is
refused. -/
def readValueWith (inner : Option (Reader Json)) : Reader Json := fun s =>
  match readFound s with
  | .error f => .error f
  | .ok (.null, rest) => .ok (.null, rest)
  | .ok (.bool b, rest) => .ok (.bool b, rest)
  | .ok (.number n, rest) => .ok (.number n, rest)
  | .ok (.text t, rest) => .ok (.string t, rest)
  | .ok (.list, rest) =>
      match inner with
      | none => .error (.next .tooDeep rest)
      | some read =>
          match readItems read rest.tail with
          | .error f => .error f
          | .ok (items, rest) => .ok (.array items, rest)
  | .ok (.map, rest) =>
      match inner with
      | none => .error (.next .tooDeep rest)
      | some read =>
          match readMembers read rest.tail with
          | .error f => .error f
          | .ok (members, rest) => .ok (.object members, rest)

/-- Reads a value with at most `levels` containers around its innermost part. -/
def readValue : Nat → Reader Json
  | 0 => readValueWith none
  | levels + 1 => readValueWith (some (readValue levels))

/-- The number of containers that may enclose a value. -/
def greatestDepth : Nat := 127

/-- Reads a whole document with a reader: nothing but blanks may follow the value. -/
def readDocument {α : Type} (read : Reader α) (s : List Char) : Except Fault α :=
  match read s with
  | .error f => .error f
  | .ok (v, rest) =>
      match skipSpace rest with
      | [] => .ok v
      | rest => .error (.next .trailingCharacters rest)

/-- Reads a document that holds any value. -/
def parse (document : String) : Except Fault Json :=
  readDocument (readValue greatestDepth) document.toList

end Json
end Keyring
