import Keyring.Proofs.Json.Numeral
import Keyring.Store.Record

/-!
# Records read back

The text of a record is read as that record, whatever its texts hold.  Fields that are left out come
back as missing.
-/

namespace Keyring

open Json.Shape (Member)

namespace StoredKey

/-- The texts of an entry are taken for themselves. -/
theorem takes_textCodec (s : String) :
    Json.Takes textCodec.read (.string s) s :=
  Json.Codec.takes_text "a string" s

/-- The optional texts of an entry are taken for themselves. -/
theorem takes_optional_textCodec (s : String) :
    Json.Takes (Json.Codec.optional textCodec).read (.string s) (some s) :=
  Json.Codec.takes_optional_text "a string" s

/-- The member of a base URL. -/
def baseUrlMember (url : String) : Member shape :=
  .of "baseUrl" false (.optional textCodec) (fun v k => { k with baseUrl := v }) rfl
    (takes_optional_textCodec url)

/-- The member of a note. -/
def noteMember (note : String) : Member shape :=
  .of "note" false (.optional textCodec) (fun v k => { k with note := v }) rfl
    (takes_optional_textCodec note)

/-- The members in which an entry is written. -/
def members (k : StoredKey) : List (Member shape) :=
  [.of "name" true textCodec (fun v k => { k with name := v }) rfl (takes_textCodec k.name),
    .of "key" true textCodec (fun v k => { k with key := v }) rfl (takes_textCodec k.key)] ++
  (k.baseUrl.map baseUrlMember).toList ++ (k.note.map noteMember).toList ++
  [.of "createdAt" true textCodec (fun v k => { k with createdAt := v }) rfl
    (takes_textCodec k.createdAt)]

/-- An entry is an object of its members. -/
theorem json_eq (k : StoredKey) :
    k.json = .object (k.members.map Member.pair) := by
  obtain ⟨name, key, baseUrl, note, createdAt⟩ := k
  cases baseUrl with
  | none =>
      cases note with
      | none => rfl
      | some note => rfl
  | some url =>
      cases note with
      | none => rfl
      | some note => rfl

/-- The members of an entry have different names. -/
theorem nodup_members (k : StoredKey) :
    (k.members.map Member.name).Nodup := by
  obtain ⟨name, key, baseUrl, note, createdAt⟩ := k
  have hnames : ∀ url note : Bool,
      (["name", "key"] ++ (if url then ["baseUrl"] else []) ++ (if note then ["note"] else []) ++
        ["createdAt"]).Nodup := by decide
  cases baseUrl with
  | none =>
      cases note with
      | none => exact hnames false false
      | some note => exact hnames false true
  | some url =>
      cases note with
      | none => exact hnames true false
      | some note => exact hnames true true

/-- The members of an entry leave no required field out. -/
theorem missing?_members (k : StoredKey) :
    shape.missing? (k.members.map Member.name).reverse = none := by
  obtain ⟨name, key, baseUrl, note, createdAt⟩ := k
  cases baseUrl with
  | none =>
      cases note with
      | none => rfl
      | some note => rfl
  | some url =>
      cases note with
      | none => rfl
      | some note => rfl

/-- The members of an entry store it. -/
theorem foldl_members (k : StoredKey) :
    k.members.foldl (fun x m => m.store x) shape.blank = k := by
  obtain ⟨name, key, baseUrl, note, createdAt⟩ := k
  cases baseUrl with
  | none =>
      cases note with
      | none => rfl
      | some note => rfl
  | some url =>
      cases note with
      | none => rfl
      | some note => rfl

/-- An entry is taken for itself. -/
theorem takes_codec (k : StoredKey) :
    Json.Takes shape.codec.read (.object (k.members.map Member.pair)) k := by
  have h := Json.Shape.takes_codec k.nodup_members k.missing?_members
  rwa [foldl_members] at h

end StoredKey

namespace Record

/-- The entries of a record are taken for themselves. -/
theorem takes_entries (keys : List StoredKey) :
    Json.Takes (Json.Codec.list StoredKey.shape.codec).read
      (.array (keys.map fun k => .object (k.members.map Member.pair))) keys :=
  Json.Codec.takes_list _ fun k _ => k.takes_codec

/-- The members in which a record is written. -/
def members (r : Record) (hversion : r.version < Nat.pow 2 32) : List (Member shape) :=
  [.of "version" false .word32 (fun v r => { r with version := v }) rfl
      (Json.Codec.takes_word32 hversion),
    .of "keys" true (.list StoredKey.shape.codec) (fun v r => { r with keys := v }) rfl
      (takes_entries r.keys),
    .of "default" false StoredKey.textCodec (fun v r => { r with default := v }) rfl
      (StoredKey.takes_textCodec r.default)]

/-- A record is an object of its members. -/
theorem json_eq
    (r : Record)
    (hversion : r.version < Nat.pow 2 32) :
    r.json = .object ((r.members hversion).map Member.pair) := by
  have hkeys : r.keys.map StoredKey.json =
      r.keys.map fun k => .object (k.members.map Member.pair) :=
    List.map_congr_left fun k _ => k.json_eq
  rw [json, hkeys]
  rfl

/-- The text of a record is read as that record. -/
theorem ofText_text
    {r : Record}
    (hversion : r.version < Nat.pow 2 32) :
    ofText r.text = .ok r := by
  have hnodup : ((r.members hversion).map Member.name).Nodup :=
    show ["version", "keys", "default"].Nodup by decide
  have htakes := Json.Shape.takes_codec hnodup rfl
  rw [← json_eq] at htakes
  exact Json.Codec.parse_indented htakes

end Record
end Keyring
