/-!
# Offsets of local time

Local time differs from universal time by a number of seconds, which stays below twenty-six hours.
-/

namespace Keyring

/-- How far local time is ahead of universal time, in seconds. -/
structure Offset where
  seconds : Int
  isBounded : seconds.natAbs < 93600
deriving DecidableEq, Repr

/-- The offset of universal time. -/
def Offset.utc : Offset :=
  ⟨0, by decide⟩

/-- The offset of a number of seconds, if it is one. -/
def Offset.ofSeconds? (seconds : Int) : Option Offset :=
  if h : seconds.natAbs < 93600 then some ⟨seconds, h⟩ else none

end Keyring
