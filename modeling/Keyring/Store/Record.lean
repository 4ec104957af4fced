import Keyring.Collection
import Keyring.Json.Codec
import Keyring.Time.Timestamp

/-!
# The record in the key store

The key store holds one JSON document.  A `Record` is that document as it stands, with every field
still a text; `Record.collection` checks the fields and builds the collection, and
`Record.ofCollection?` goes the other way.  The first fault in reading order is reported: the version,
then entry by entry the name, the base URL and the creation time, then the default, and only then
names that repeat and a default that is not stored.

A collection has a record unless one of its creation times lies after the year 9999.
-/

namespace Keyring

/-- An entry of the key store. -/
structure StoredKey where
  name : String
  key : String
  baseUrl : Option String
  note : Option String
  createdAt : String
deriving DecidableEq, Repr

/-- The document in the key store. -/
structure Record where
  version : Nat
  keys : List StoredKey
  default : String
deriving DecidableEq, Repr

namespace StoredKey

/-- The codec of a text. -/
def textCodec : Json.Codec String :=
  .text "a string"

/-- The fields of an entry. -/
def shape : Json.Shape StoredKey where
  title := "struct StoredKey"
  blank := ⟨"", "", none, none, ""⟩
  closed := false
  fields :=
    [.of "name" true textCodec fun v k => { k with name := v },
     .of "key" true textCodec fun v k => { k with key := v },
     .of "baseUrl" false (.optional textCodec) fun v k => { k with baseUrl := v },
     .of "note" false (.optional textCodec) fun v k => { k with note := v },
     .of "createdAt" true textCodec fun v k => { k with createdAt := v }]

/-- A member that is left out when it has no value. -/
def optionalMember (name : String) (value : Option String) : List (String × Json) :=
  (value.map fun v => (name, Json.string v)).toList

/-- The entry as a value. -/
def json (k : StoredKey) : Json :=
  .object ([("name", .string k.name), ("key", .string k.key)] ++
    optionalMember "baseUrl" k.baseUrl ++ optionalMember "note" k.note ++
    [("createdAt", .string k.createdAt)])

/-- The entry of a profile. -/
def ofProfile? (p : Profile) : Option StoredKey :=
  p.createdAt.stored?.map fun createdAt =>
    ⟨p.name.value, p.secret, p.baseUrlText, p.note, createdAt⟩

/-- What is wrong with a field of an entry. -/
inductive Fault
  | name (fault : NameFault)
  | baseUrl (fault : BaseUrlFault)
  | createdAt (text : String) (fault : Time.TimestampFault)
deriving DecidableEq, Repr

/-- The wording of a fault, after the number of its entry. -/
def Fault.message : Fault → String
  | .name fault => "name: " ++ fault.message
  | .baseUrl fault => "baseUrl: " ++ fault.message
  | .createdAt text fault => "createdAt '" ++ text ++ "': " ++ fault.message

/-- The base URL of an entry, if it has one. -/
def endpoint (k : StoredKey) : Except BaseUrlFault (Option BaseUrl) :=
  match k.baseUrl with
  | none => .ok none
  | some raw => (BaseUrl.ofText raw).map some

/-- The profile of an entry. -/
def profile (k : StoredKey) : Except Fault Profile :=
  match KeyName.ofText k.name with
  | .error f => .error (.name f)
  | .ok name =>
      match k.endpoint with
      | .error f => .error (.baseUrl f)
      | .ok url =>
          match Time.readTimestamp k.createdAt with
          | .error f => .error (.createdAt k.createdAt f)
          | .ok t => .ok (.make name k.key url k.note t)

end StoredKey

namespace Record

/-- The version that is written, and the greatest that is read. -/
def currentVersion : Nat := 1

/-- The fields of the document. -/
def shape : Json.Shape Record where
  title := "struct StoreRecord"
  blank := ⟨currentVersion, [], ""⟩
  closed := false
  fields :=
    [.of "version" false .word32 fun v r => { r with version := v },
     .of "keys" true (.list StoredKey.shape.codec) fun v r => { r with keys := v },
     .of "default" false StoredKey.textCodec fun v r => { r with default := v }]

/-- Reads the text of a key store as a record. -/
def ofText (text : String) : Except Json.Fault Record :=
  shape.codec.parse text

/-- The record as a value. -/
def json (r : Record) : Json :=
  .object [("version", .nat r.version), ("keys", .array (r.keys.map StoredKey.json)),
    ("default", .string r.default)]

/-- The text of a record. -/
def text (r : Record) : String :=
  r.json.indented

/-- The record of a collection. -/
def ofCollection? (c : Collection) : Option Record :=
  (c.keys.mapM StoredKey.ofProfile?).map fun keys =>
    ⟨currentVersion, keys, (c.defaultName.map KeyName.value).getD ""⟩

/-- What is wrong with a record. -/
inductive Fault
  | version (version : Nat)
  | entry (index : Nat) (fault : StoredKey.Fault)
  | default (fault : NameFault)
  | parts (fault : Collection.PartsFault)
deriving DecidableEq

/-- The wording of a fault. -/
def Fault.message : Fault → String
  | .version v => "unsupported store version " ++ toString v
  | .entry index fault => "keys[" ++ toString index ++ "]." ++ fault.message
  | .default fault => "default: " ++ fault.message
  | .parts fault => fault.failure.message

/-- The profiles of entries, of which the first has the number `index`. -/
def profilesFrom (index : Nat) : List StoredKey → Except Fault (List Profile)
  | [] => .ok []
  | k :: rest =>
      match k.profile with
      | .error f => .error (.entry index f)
      | .ok p =>
          match profilesFrom (index + 1) rest with
          | .error f => .error f
          | .ok ps => .ok (p :: ps)

/-- The name of the default; a blank text stands for none. -/
def defaultName (r : Record) : Except NameFault (Option KeyName) :=
  if Text.isBlankText r.default then .ok none else (KeyName.ofText r.default).map some

/-- The collection of a record. -/
def collection (r : Record) : Except Fault Collection :=
  if r.version > currentVersion then .error (.version r.version)
  else
    match profilesFrom 0 r.keys with
    | .error f => .error f
    | .ok profiles =>
        match r.defaultName with
        | .error f => .error (.default f)
        | .ok name => (Collection.ofParts profiles name).mapError .parts

end Record
end Keyring
