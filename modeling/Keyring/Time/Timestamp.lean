import Keyring.Text.Blank
import Keyring.Time.Instant

/-!
# Reading timestamps

A timestamp is a date, a separator, a time of day with an optional fraction, and an offset from
UTC, as RFC 3339 writes them.  The separator may be any ASCII character, blanks around the whole
are trimmed, and digits of the fraction beyond the ninth are dropped.

Reading goes from left to right and stops at the first component that is not there; there is no month
with the number zero.  Only when all of it has been read are the ranges of the month, the day, the hour,
the minute and the second looked at.  The
second 60 is a leap second: it is read as the last nanosecond before it, and it is accepted only
where one can be inserted, at the end of the last day of a month in UTC.
-/

namespace Keyring
namespace Time

/-- Why a text is not a timestamp. -/
inductive TimestampFault
  | component (name : String)
  | literal
  | outOfRange (name : String)
  | trailing
deriving DecidableEq, Repr

/-- The wording of a fault. -/
def TimestampFault.message : TimestampFault → String
  | .component name => "the '" ++ name ++ "' component could not be parsed"
  | .literal => "a character literal was not valid"
  | .outOfRange name => name ++ " was not in range"
  | .trailing => "unexpected trailing characters; the end of input was expected"

/-- The components of a timestamp as they are written, with the offset in minutes. -/
structure Written where
  date : Date
  hour : Nat
  minute : Nat
  second : Nat
  fraction : Nat
  offset : Int
deriving DecidableEq, Repr

/-- Reads a number of exactly `width` digits. -/
def readDigits (width : Nat) (name : String) (s : List Char) :
    Except TimestampFault (Nat × List Char) :=
  let digits := s.take width
  if digits.length = width && digits.all Char.isDigit then
    .ok (Nat.ofDigitChars 10 digits 0, s.drop width)
  else .error (.component name)

/-- Reads one given character. -/
def readLiteral (c : Char) : List Char → Except TimestampFault (List Char)
  | d :: rest => if d = c then .ok rest else .error .literal
  | [] => .error .literal

/-- Reads a date. -/
def readDate (s : List Char) : Except TimestampFault (Date × List Char) := do
  let (year, s) ← readDigits 4 "year" s
  let s ← readLiteral '-' s
  let (month, s) ← readDigits 2 "month" s
  if month = 0 then .error (.component "month")
  let s ← readLiteral '-' s
  let (day, s) ← readDigits 2 "day" s
  return (⟨year, month, day⟩, s)

/-- Reads the character between date and time.  One outside ASCII leaves something behind that is
no hour. -/
def readSeparator : List Char → Except TimestampFault (List Char)
  | [] => .error (.component "separator")
  | c :: rest => if c.toNat < 0x80 then .ok rest else .error (.component "hour")

/-- The digits of a fraction as nanoseconds. -/
def nanoseconds (digits : List Char) : Nat :=
  let kept := digits.take 9
  Nat.ofDigitChars 10 kept 0 * Nat.pow 10 (9 - kept.length)

/-- Reads a fraction, if there is one. -/
def readFraction : List Char → Except TimestampFault (Nat × List Char)
  | '.' :: rest =>
      let digits := rest.takeWhile Char.isDigit
      if digits.isEmpty then .error (.component "subsecond")
      else .ok (nanoseconds digits, rest.dropWhile Char.isDigit)
  | s => .ok (0, s)

/-- Reads the hours and minutes of an offset. -/
def readOffsetParts (s : List Char) : Except TimestampFault (Nat × List Char) := do
  let (hour, s) ← readDigits 2 "offset hour" s
  if hour > 23 then .error (.component "offset hour")
  let s ← readLiteral ':' s
  let (minute, s) ← readDigits 2 "offset minute" s
  if minute > 59 then .error (.outOfRange "offset minute")
  return (hour * 60 + minute, s)

/-- Reads an offset in minutes. -/
def readOffset : List Char → Except TimestampFault (Int × List Char)
  | 'Z' :: rest => .ok (0, rest)
  | 'z' :: rest => .ok (0, rest)
  | '+' :: rest => do
      let (minutes, s) ← readOffsetParts rest
      return (minutes, s)
  | '-' :: rest => do
      let (minutes, s) ← readOffsetParts rest
      return (-(minutes : Int), s)
  | _ => .error (.component "offset hour")

/-- Reads the components of a timestamp. -/
def readWritten (s : List Char) : Except TimestampFault Written := do
  let (date, s) ← readDate s
  let s ← readSeparator s
  let (hour, s) ← readDigits 2 "hour" s
  let s ← readLiteral ':' s
  let (minute, s) ← readDigits 2 "minute" s
  let s ← readLiteral ':' s
  let (second, s) ← readDigits 2 "second" s
  let (fraction, s) ← readFraction s
  let (offset, s) ← readOffset s
  if !s.isEmpty then .error .trailing
  return ⟨date, hour, minute, second, fraction, offset⟩

namespace Written

/-- The instant that the components denote. -/
def instant (w : Written) : Instant :=
  .ofParts w.date.toDays (w.hour * 3600 + w.minute * 60 + w.second - w.offset * 60) w.fraction

/-- Whether a leap second can follow an instant: it is in the last second of a month in UTC. -/
def leapCanFollow (t : Instant) : Bool :=
  t.secondOfDay == 86399 && t.date.day == monthLength t.date.year t.date.month

/-- The components as an instant, if all are in range. -/
def check (w : Written) : Except TimestampFault Instant :=
  let leap := w.second == 60
  let w := if leap then { w with second := 59, fraction := 999999999 } else w
  if w.date.month > 12 then .error (.outOfRange "month")
  else if w.date.day = 0 || w.date.day > monthLength w.date.year w.date.month then
    .error (.outOfRange "day")
  else if w.hour > 23 then .error (.outOfRange "hour")
  else if w.minute > 59 then .error (.outOfRange "minute")
  else if w.second > 59 then .error (.outOfRange "second")
  else if leap && !leapCanFollow w.instant then .error (.outOfRange "second")
  else .ok w.instant

end Written

/-- Reads a timestamp. -/
def readTimestamp (raw : String) : Except TimestampFault Instant := do
  let written ← readWritten (Text.trim raw.toList)
  written.check

end Time
end Keyring
