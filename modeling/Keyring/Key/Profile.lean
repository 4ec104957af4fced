import Keyring.Key.BaseUrl
import Keyring.Key.Name
import Keyring.Time.Instant

/-!
# Key profiles

A profile is one stored credential: its name, the secret itself, an endpoint and a note that are
optional, and the time it was made.  A profile is never changed in place; an edit makes a new one
that keeps the rest, its creation time included.

Wherever a secret is shown, its mask is shown instead.
-/

namespace Keyring

/-- The longest secret that its mask shows in full. -/
def maskLimit : Nat := 12

/-- How many characters a mask shows at the start of a longer secret. -/
def maskHead : Nat := 8

/-- How many characters a mask shows at the end of a longer secret. -/
def maskTail : Nat := 4

/-- The form in which a secret is shown: a long one only at its two ends. -/
def mask (secret : String) : String :=
  let cs := secret.toList
  if cs.length ≤ maskLimit then secret
  else String.ofList (cs.take maskHead ++ '…' :: cs.drop (cs.length - maskTail))

/-- A stored credential. -/
structure Profile where
  name : KeyName
  secret : String
  baseUrl : Option BaseUrl
  note : Option String
  createdAt : Instant
  baseUrl_nonempty : baseUrl.all (fun u => !u.isEmpty) = true
deriving DecidableEq

namespace Profile

/-- The profile with the given parts.  An empty base URL counts as none. -/
def make (name : KeyName) (secret : String) (baseUrl : Option BaseUrl) (note : Option String)
    (createdAt : Instant) : Profile where
  name := name
  secret := secret
  baseUrl := BaseUrl.set? baseUrl
  note := note
  createdAt := createdAt
  baseUrl_nonempty := by
    cases baseUrl with
    | none => rfl
    | some u => by_cases h : u.isEmpty = true <;> simp [BaseUrl.set?, Option.filter, h]

/-- A profile made at the given time, which is cut down to what the key store can keep. -/
def create (name : KeyName) (secret : String) (baseUrl : Option BaseUrl) (note : Option String)
    (now : Instant) : Profile :=
  make name secret baseUrl note now.cutToMillisecond

/-- The mask of the secret. -/
def masked (p : Profile) : String :=
  mask p.secret

/-- The profile with another secret. -/
def withSecret (p : Profile) (secret : String) : Profile :=
  { p with secret := secret }

/-- The profile with another base URL. -/
def withBaseUrl (p : Profile) (baseUrl : Option BaseUrl) : Profile :=
  make p.name p.secret baseUrl p.note p.createdAt

/-- The profile with another note. -/
def withNote (p : Profile) (note : Option String) : Profile :=
  { p with note := note }

/-- The text of the base URL. -/
def baseUrlText (p : Profile) : Option String :=
  p.baseUrl.map BaseUrl.value

end Profile
end Keyring
