import Keyring.Collection

/-!
# How keys are described

Reports describe a key as a value and as a line of text.  Both hold the mask of the secret in the
place of the secret.  A key whose creation time lies after the year 9999 has no description; the line
shows that time in local time.
-/

namespace Keyring
namespace Profile

/-- The key as a value. -/
def description? (p : Profile) (isDefault : Bool) : Option Json :=
  p.createdAt.stored?.map fun createdAt =>
    .object [("name", .string p.name.value), ("maskedKey", .string p.masked),
      ("baseUrl", .text? p.baseUrlText), ("note", .text? p.note),
      ("createdAt", .string createdAt), ("isDefault", .bool isDefault)]

/-- The key as a line. -/
def line? (offset : Offset) (p : Profile) : Option String :=
  (p.createdAt.displayed? offset).map fun createdAt =>
    p.name.value ++ "  " ++ p.masked ++ "  base_url=" ++ p.baseUrlText.getD "-" ++
      " note=" ++ p.note.getD "-" ++ " created=" ++ createdAt

end Profile

namespace Collection

/-- The keys as values. -/
def descriptions? (c : Collection) : Option (List Json) :=
  c.keys.mapM fun p => p.description? (c.isDefault p.name)

/-- The line of a key, after a star if it is the default. -/
def markedLine? (offset : Offset) (c : Collection) (p : Profile) : Option String :=
  (p.line? offset).map fun line => (if c.isDefault p.name then "* " else "  ") ++ line

/-- The line that counts the keys and names the default. -/
def countLine (c : Collection) : String :=
  toString c.size ++
    match c.defaultName with
    | some name => " key(s), default: " ++ name.value
    | none => " key(s), no default set"

/-- The collection as a value. -/
def description? (c : Collection) : Option Json :=
  c.descriptions?.map fun keys =>
    .object [("keys", .array keys), ("default", .text? (c.defaultName.map KeyName.value)),
      ("count", .nat c.size)]

/-- The collection as a text. -/
def listing? (offset : Offset) (c : Collection) : Option String :=
  if c.isEmpty then some "No API keys stored. Run 'keyswitch add <name>' to add one."
  else (c.keys.mapM (c.markedLine? offset)).map fun lines =>
    String.intercalate "\n" (lines ++ ["", c.countLine])

end Collection
end Keyring
