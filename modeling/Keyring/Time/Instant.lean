import Keyring.Time.Calendar
import Keyring.Time.Offset

/-!
# Instants and their two texts

An instant is a number of nanoseconds since midnight UTC of the first of January of the year zero.
It is stored as a UTC date and time cut down to milliseconds, and shown to people as a local date and
time cut down to seconds.  Both texts have four digits for the year, so an instant has none of them where
its year, in that time, lies beyond 9999; then the program cannot go on.
-/

namespace Keyring

/-- A point in time. -/
structure Instant where
  nanoseconds : Int
deriving DecidableEq, Repr

namespace Instant

/-- Nanoseconds in a second. -/
def perSecond : Int := 1000000000

/-- Nanoseconds in a millisecond. -/
def perMillisecond : Int := 1000000

/-- Seconds in a day. -/
def secondsPerDay : Int := 86400

/-- The instant at a second of a day, with a fraction in nanoseconds. -/
def ofParts (days second : Int) (fraction : Nat) : Instant :=
  ⟨(days * secondsPerDay + second) * perSecond + fraction⟩

/-- The whole seconds before the instant. -/
def seconds (t : Instant) : Int :=
  t.nanoseconds / perSecond

/-- The nanoseconds since the last whole second. -/
def fraction (t : Instant) : Nat :=
  (t.nanoseconds % perSecond).toNat

/-- The day of the instant. -/
def day (t : Instant) : Int :=
  t.seconds / secondsPerDay

/-- The second of the day, from zero. -/
def secondOfDay (t : Instant) : Nat :=
  (t.seconds % secondsPerDay).toNat

/-- The date of the instant. -/
def date (t : Instant) : Time.Date :=
  .ofDays t.day

/-- The instant that has in universal time the date and clock of this one in local time. -/
def shifted (t : Instant) (offset : Offset) : Instant :=
  ⟨t.nanoseconds + offset.seconds * perSecond⟩

/-- The instant cut down to whole milliseconds. -/
def cutToMillisecond (t : Instant) : Instant :=
  ⟨t.nanoseconds / perMillisecond * perMillisecond⟩

/-- The digits of a number with zeros before them up to a width. -/
def padded (width n : Nat) : List Char :=
  let digits := Nat.toDigits 10 n
  List.replicate (width - digits.length) '0' ++ digits

/-- The digits of a year, with a minus sign before the year zero. -/
def yearText : Int → List Char
  | .ofNat n => padded 4 n
  | .negSucc n => '-' :: padded 4 (n + 1)

/-- The text of a date. -/
def dateText (d : Time.Date) : List Char :=
  yearText d.year ++ '-' :: padded 2 d.month ++ '-' :: padded 2 d.day

/-- The text of a second of the day. -/
def clockText (second : Nat) : List Char :=
  padded 2 (second / 3600) ++ ':' :: padded 2 (second / 60 % 60) ++ ':' :: padded 2 (second % 60)

/-- The greatest year that has a text. -/
def greatestYear : Int := 9999

/-- The text in the key store. -/
def stored? (t : Instant) : Option String :=
  if t.date.year > greatestYear then none
  else
    some (String.ofList (dateText t.date ++ 'T' :: clockText t.secondOfDay ++
      '.' :: padded 3 (t.fraction / 1000000) ++ ['Z']))

/-- The least year that a date can have. -/
def leastYear : Int := -9999

/-- Whether the year of an instant, in local time, is one that a date can have. -/
def isDisplayable (offset : Offset) (t : Instant) : Bool :=
  leastYear ≤ (t.shifted offset).date.year && (t.shifted offset).date.year ≤ greatestYear

/-- The text for people, in local time. -/
def displayed? (offset : Offset) (t : Instant) : Option String :=
  let shown := t.shifted offset
  if t.isDisplayable offset then
    some (String.ofList (dateText shown.date ++ ' ' :: clockText shown.secondOfDay))
  else none

end Instant
end Keyring
