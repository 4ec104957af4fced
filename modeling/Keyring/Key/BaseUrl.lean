import Keyring.Failure
import Keyring.Text.Blank
import Keyring.Url.Check

/-!
# Base URLs

A key may be meant for an endpoint of its own, which its base URL names.  The text of a base URL is
trimmed and kept as it was typed; it must be an absolute URL, or empty, which means that no endpoint
is set.
-/

namespace Keyring

/-- A base URL, possibly the empty one. -/
structure BaseUrl where
  value : String
  trimmed : Text.trimmed value = value
  accepted : value.isEmpty = true ∨ Url.fault? value = none
deriving DecidableEq

/-- Why a trimmed text is not a base URL. -/
structure BaseUrlFault where
  text : String
  reason : Url.Fault
deriving DecidableEq, Repr

/-- The wording of a fault. -/
def BaseUrlFault.message (fault : BaseUrlFault) : String :=
  "invalid base URL '" ++ fault.text ++ "': " ++ fault.reason.message

/-- The failure of a command that is given such a base URL. -/
def BaseUrlFault.failure (fault : BaseUrlFault) : Failure :=
  .validation fault.message

namespace BaseUrl

/-- Reads a base URL. -/
def ofText (raw : String) : Except BaseUrlFault BaseUrl :=
  if empty : (Text.trimmed raw).isEmpty = true then
    .ok ⟨Text.trimmed raw, Text.trimmed_trimmed raw, .inl empty⟩
  else
    match fault : Url.fault? (Text.trimmed raw) with
    | some reason => .error ⟨Text.trimmed raw, reason⟩
    | none => .ok ⟨Text.trimmed raw, Text.trimmed_trimmed raw, .inr fault⟩

/-- Reads a base URL on behalf of a command. -/
def read (raw : String) : Except Failure BaseUrl :=
  (ofText raw).mapError BaseUrlFault.failure

/-- Whether no endpoint is set. -/
def isEmpty (url : BaseUrl) : Bool :=
  url.value.isEmpty

/-- A base URL that sets an endpoint, if there is one. -/
def set? (url : Option BaseUrl) : Option BaseUrl :=
  url.filter fun u => !u.isEmpty

end BaseUrl
end Keyring
