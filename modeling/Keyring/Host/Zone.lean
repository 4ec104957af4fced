import Keyring.Time.Offset

/-!
# Fixed time zones

A variable can name a time zone that is always the same number of hours, minutes and seconds behind
universal time: letters, perhaps a sign, and the three numbers with colons between them.
-/

namespace Keyring
namespace Host
namespace Zone

/-- The variable that names the time zone. -/
def variableName : String := "TZ"

/-- The seconds of hours, minutes and seconds with colons between them. -/
def secondsOf? (clock : List Char) : Option Nat :=
  match (clock.splitOn ':').mapM fun part => (String.ofList part).toNat? with
  | some [hours] => some (hours * 3600)
  | some [hours, minutes] => some (hours * 3600 + minutes * 60)
  | some [hours, minutes, seconds] => some (hours * 3600 + minutes * 60 + seconds)
  | _ => none

/-- The offset of a fixed time zone. -/
def offset? (zone : String) : Option Offset :=
  match zone.toList.dropWhile Char.isAlpha with
  | '-' :: clock => (secondsOf? clock).bind fun n => Offset.ofSeconds? n
  | '+' :: clock => (secondsOf? clock).bind fun n => Offset.ofSeconds? (-n)
  | clock => (secondsOf? clock).bind fun n => Offset.ofSeconds? (-n)

/-- The offset of the time zone that variables name, if it is a fixed one. -/
def ofVariables? (environment : List (String × String)) : Option Offset :=
  (environment.lookup variableName).bind offset?

end Zone
end Host
end Keyring
