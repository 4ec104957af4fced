import Keyring.Proofs.Text.Trim
import Keyring.Proofs.Time.Calendar
import Keyring.Time.Timestamp

/-!
# Stored timestamps read back

The key store keeps an instant as a UTC date and time with three digits of a fraction.  For the years
from 0 to 9999 reading that text gives the instant cut down to whole milliseconds, and the cut instant
has the same text.  A year before that range is written with a minus sign, which no reader accepts; a
year after it has no text at all.
-/

namespace Keyring
namespace Instant

/-- Whether the year of the instant in UTC has the four digits that a stored timestamp gives it. -/
def InStoredRange (t : Instant) : Prop :=
  0 ≤ t.date.year ∧ t.date.year ≤ greatestYear

instance (t : Instant) : Decidable t.InStoredRange :=
  inferInstanceAs (Decidable (_ ∧ _))

/-- The characters of the text in the key store, if the instant has one. -/
def storedText (t : Instant) : List Char :=
  dateText t.date ++ 'T' :: clockText t.secondOfDay ++ '.' :: padded 3 (t.fraction / 1000000) ++ ['Z']

/-- An instant has a text in the key store unless it lies after the greatest year. -/
theorem stored?_eq (t : Instant) :
    t.stored? = if t.date.year > greatestYear then none else some (String.ofList t.storedText) :=
  rfl

/-- A day has 86400 seconds. -/
theorem secondOfDay_lt (t : Instant) :
    t.secondOfDay < 86400 := by
  simp only [secondOfDay, secondsPerDay]
  omega

/-- A second has a thousand million nanoseconds. -/
theorem fraction_lt (t : Instant) :
    t.fraction < 1000000000 := by
  simp only [fraction, perSecond]
  omega

section CutToMillisecond

/-- Cutting down to milliseconds stays within the second. -/
@[simp] theorem seconds_cutToMillisecond (t : Instant) :
    t.cutToMillisecond.seconds = t.seconds := by
  simp only [seconds, cutToMillisecond, perSecond, perMillisecond]
  omega

/-- Cutting down to milliseconds stays on the day. -/
@[simp] theorem date_cutToMillisecond (t : Instant) :
    t.cutToMillisecond.date = t.date := by
  simp only [date, day, seconds_cutToMillisecond]

/-- Cutting down to milliseconds keeps the milliseconds. -/
theorem fraction_cutToMillisecond (t : Instant) :
    t.cutToMillisecond.fraction / 1000000 = t.fraction / 1000000 := by
  simp only [fraction, cutToMillisecond, perSecond, perMillisecond]
  omega

/-- An instant that has been cut down is not cut down any further. -/
@[simp] theorem cutToMillisecond_cutToMillisecond (t : Instant) :
    t.cutToMillisecond.cutToMillisecond = t.cutToMillisecond := by
  simp only [cutToMillisecond, perMillisecond, mk.injEq]
  omega

/-- The text in the key store does not tell a cut instant from the instant itself. -/
@[simp] theorem storedText_cutToMillisecond (t : Instant) :
    t.cutToMillisecond.storedText = t.storedText := by
  simp only [storedText, date_cutToMillisecond, secondOfDay, seconds_cutToMillisecond,
    fraction_cutToMillisecond]

/-- Cutting down to milliseconds stays within the year. -/
theorem InStoredRange.cutToMillisecond
    {t : Instant}
    (h : t.InStoredRange) :
    t.cutToMillisecond.InStoredRange := by
  rw [InStoredRange, date_cutToMillisecond]
  exact h

end CutToMillisecond

section Padded

variable {width n : Nat}

/-- Padding fills the width as long as the number fits. -/
theorem length_padded
    (hwidth : 0 < width)
    (hn : n < Nat.pow 10 width) :
    (padded width n).length = width := by
  have hdigits : (Nat.toDigits 10 n).length ≤ width :=
    (Nat.length_toDigits_le_iff (by decide) hwidth).2 hn
  simp only [padded, List.length_append, List.length_replicate]
  omega

/-- A padded number has a digit. -/
theorem padded_ne_nil (width n : Nat) :
    padded width n ≠ [] := by
  simp [padded]

/-- Padded numbers are made of digits. -/
theorem isDigit_of_mem_padded
    {c : Char}
    (hc : c ∈ padded width n) :
    c.isDigit = true := by
  simp only [padded, List.mem_append] at hc
  rcases hc with hzero | hdigit
  · rw [List.eq_of_mem_replicate hzero]
    rfl
  · exact Nat.isDigit_of_mem_toDigits (by decide) (by decide) hdigit

/-- The zeros before a number do not change what its digits denote. -/
theorem ofDigitChars_padded :
    Nat.ofDigitChars 10 (padded width n) 0 = n := by
  simp [padded, Nat.ofDigitChars_append]

end Padded

/-- The parts of a second of the day fit two digits each. -/
theorem clock_fits
    {second : Nat}
    (h : second < 86400) :
    second / 3600 < Nat.pow 10 2 ∧ second / 60 % 60 < Nat.pow 10 2 ∧ second % 60 < Nat.pow 10 2 :=
  show second / 3600 < 100 ∧ second / 60 % 60 < 100 ∧ second % 60 < 100 by omega

end Instant

namespace Time

open Instant

/-- Reading as many digits as a number has been padded to gives the number. -/
theorem readDigits_padded
    {width n : Nat}
    (name : String)
    (rest : List Char)
    (hwidth : 0 < width)
    (hn : n < Nat.pow 10 width) :
    readDigits width name (padded width n ++ rest) = .ok (n, rest) := by
  have hlength := length_padded hwidth hn
  have htake : (padded width n ++ rest).take width = padded width n :=
    List.take_left' hlength
  have hdrop : (padded width n ++ rest).drop width = rest :=
    List.drop_left' hlength
  have hall : (padded width n).all Char.isDigit = true :=
    List.all_eq_true.2 fun c hc => isDigit_of_mem_padded hc
  simp [readDigits, htake, hdrop, hlength, hall, ofDigitChars_padded]

/-- A literal is read where it stands. -/
@[simp] theorem readLiteral_cons (c : Char) (rest : List Char) :
    readLiteral c (c :: rest) = .ok rest := by
  simp [readLiteral]

/-- The digits of a year within four digits. -/
theorem yearText_of_nonneg
    {year : Int}
    (h : 0 ≤ year) :
    yearText year = padded 4 year.toNat := by
  obtain ⟨n, rfl⟩ := Int.eq_ofNat_of_zero_le h
  rfl

/-- The parts of a date whose year has four digits fit the digits that its text gives them. -/
theorem Date.fits
    {d : Date}
    (hyear : 0 ≤ d.year ∧ d.year ≤ greatestYear)
    (hvalid : d.Valid) :
    d.year.toNat < Nat.pow 10 4 ∧ d.month < Nat.pow 10 2 ∧ d.day < Nat.pow 10 2 := by
  obtain ⟨-, hmonth, -, hday⟩ := hvalid
  have hlength := monthLength_le d.year d.month
  simp only [greatestYear] at hyear
  exact show d.year.toNat < 10000 ∧ d.month < 100 ∧ d.day < 100 by omega

/-- A date whose year has four digits is read from its text. -/
theorem readDate_dateText
    {d : Date}
    (rest : List Char)
    (hyear : 0 ≤ d.year ∧ d.year ≤ greatestYear)
    (hvalid : d.Valid) :
    readDate (dateText d ++ rest) = .ok (d, rest) := by
  obtain ⟨hyear', hmonth, hday⟩ := Date.fits hyear hvalid
  have hmonth' : d.month ≠ 0 := Nat.ne_of_gt hvalid.1
  simp only [dateText, yearText_of_nonneg hyear.1, List.append_assoc, List.cons_append, readDate]
  rw [readDigits_padded "year" _ (by decide) hyear']
  simp only [bind, Except.bind, readLiteral_cons]
  rw [readDigits_padded "month" _ (by decide) hmonth]
  simp only [hmonth', if_false, readLiteral_cons]
  rw [readDigits_padded "day" _ (by decide) hday]
  simp [pure, Except.pure, Int.toNat_of_nonneg hyear.1]

/-- The three digits of a fraction are read as milliseconds. -/
theorem readFraction_padded
    {n : Nat}
    (rest : List Char)
    (hn : n < Nat.pow 10 3) :
    readFraction ('.' :: padded 3 n ++ 'Z' :: rest) = .ok (n * 1000000, 'Z' :: rest) := by
  have hlength : (padded 3 n).length = 3 := length_padded (by decide) hn
  have hdigit : ∀ c ∈ padded 3 n, c.isDigit = true := fun c hc => isDigit_of_mem_padded hc
  have htake : (padded 3 n ++ 'Z' :: rest).takeWhile Char.isDigit = padded 3 n := by
    rw [List.takeWhile_append_of_pos hdigit]
    simp
  have hdrop : (padded 3 n ++ 'Z' :: rest).dropWhile Char.isDigit = 'Z' :: rest := by
    rw [List.dropWhile_append_of_pos hdigit]
    simp
  have hnonempty : (padded 3 n).isEmpty = false := by
    cases hpadded : padded 3 n with
    | nil =>
        rw [hpadded] at hlength
        cases hlength
    | cons => rfl
  have hkept : (padded 3 n).take 9 = padded 3 n :=
    List.take_of_length_le (by omega)
  simp only [List.cons_append, readFraction, htake, hdrop, hnonempty, nanoseconds, hkept, hlength,
    ofDigitChars_padded]
  rfl

/-- The components of a stored timestamp. -/
def Written.ofInstant (t : Instant) : Written :=
  ⟨t.date, t.secondOfDay / 3600, t.secondOfDay / 60 % 60, t.secondOfDay % 60,
    t.fraction / 1000000 * 1000000, 0⟩

/-- A stored timestamp is read as its components. -/
theorem readWritten_storedText
    {t : Instant}
    (h : t.InStoredRange) :
    readWritten t.storedText = .ok (.ofInstant t) := by
  have hfraction := t.fraction_lt
  obtain ⟨hhour, hminute, hrest⟩ := clock_fits t.secondOfDay_lt
  have hmilli : t.fraction / 1000000 < Nat.pow 10 3 := show t.fraction / 1000000 < 1000 by omega
  simp only [storedText, clockText, List.append_assoc, List.cons_append, readWritten, bind,
    Except.bind]
  rw [readDate_dateText _ h (Date.valid_ofDays t.day)]
  simp only [readSeparator]
  rw [if_pos (by decide)]
  simp only
  rw [readDigits_padded "hour" _ (by decide) hhour]
  simp only [readLiteral_cons]
  rw [readDigits_padded "minute" _ (by decide) hminute]
  simp only [readLiteral_cons]
  rw [readDigits_padded "second" _ (by decide) hrest]
  have hread := readFraction_padded [] hmilli
  rw [List.cons_append] at hread
  simp only [hread]
  rfl

/-- The components of a stored timestamp denote the instant cut down to whole milliseconds. -/
theorem instant_ofInstant (t : Instant) :
    (Written.ofInstant t).instant = t.cutToMillisecond := by
  have hdays : t.date.toDays = t.day := Date.toDays_ofDays t.day
  obtain ⟨n⟩ := t
  simp only [Written.instant, Written.ofInstant, hdays, Instant.ofParts, Instant.cutToMillisecond,
    Instant.day, Instant.secondOfDay, Instant.fraction, Instant.seconds, perSecond, perMillisecond,
    secondsPerDay, Instant.mk.injEq]
  omega

/-- Components that are in range and name no leap second are accepted. -/
theorem Written.check_eq_ok
    {w : Written}
    (hdate : w.date.Valid)
    (hhour : w.hour ≤ 23)
    (hminute : w.minute ≤ 59)
    (hsecond : w.second ≤ 59) :
    w.check = .ok w.instant := by
  obtain ⟨hmonthPos, hmonthLe, hdayPos, hdayLe⟩ := hdate
  have hleap : (w.second == 60) = false := by
    rw [beq_eq_false_iff_ne]
    omega
  have hday : (decide (w.date.day = 0) ||
      decide (w.date.day > monthLength w.date.year w.date.month)) = false := by
    rw [Bool.or_eq_false_iff, decide_eq_false_iff_not, decide_eq_false_iff_not]
    omega
  simp [Written.check, hleap, hday, Nat.not_lt.2 hmonthLe, Nat.not_lt.2 hhour,
    Nat.not_lt.2 hminute, Nat.not_lt.2 hsecond]

/-- The components of a stored timestamp are in range. -/
theorem check_ofInstant (t : Instant) :
    (Written.ofInstant t).check = .ok t.cutToMillisecond := by
  have hsecond := t.secondOfDay_lt
  rw [Written.check_eq_ok (Date.valid_ofDays t.day), instant_ofInstant]
  all_goals
    simp only [Written.ofInstant]
    omega

/-- A year starts with a digit or a minus sign. -/
theorem exists_yearText_eq_cons (year : Int) :
    ∃ c rest, yearText year = c :: rest ∧ (c.isDigit = true ∨ c = '-') := by
  cases year with
  | ofNat n =>
      obtain ⟨c, rest, hpadded⟩ := List.exists_cons_of_ne_nil (padded_ne_nil 4 n)
      have hmem : c ∈ padded 4 n := by
        rw [hpadded]
        exact List.mem_cons_self
      exact ⟨c, rest, hpadded, .inl (isDigit_of_mem_padded hmem)⟩
  | negSucc n =>
      exact ⟨'-', padded 4 (n + 1), rfl, .inr rfl⟩

/-- Trimming keeps a stored timestamp. -/
theorem trim_storedText (t : Instant) :
    Text.trim t.storedText = t.storedText := by
  obtain ⟨first, rest, hyear, hfirst⟩ := exists_yearText_eq_cons t.date.year
  apply Text.trim_eq_self
  · intro c hc
    simp only [storedText, dateText, hyear, List.cons_append, List.head?_cons, Option.mem_def,
      Option.some.injEq] at hc
    subst hc
    rcases hfirst with hdigit | rfl
    · have hbounds : 48 ≤ first.toNat ∧ first.toNat ≤ 57 := Char.isDigit_iff_toNat.1 hdigit
      exact Text.isBlank_of_visible (by omega) (by omega)
    · rfl
  · intro c hc
    rw [storedText, List.getLast?_concat] at hc
    cases hc
    rfl

/-- A stored timestamp reads back as its instant cut down to whole milliseconds. -/
theorem readTimestamp_storedText
    {t : Instant}
    (h : t.InStoredRange) :
    readTimestamp (String.ofList t.storedText) = .ok t.cutToMillisecond := by
  simp only [readTimestamp, String.toList_ofList, trim_storedText, readWritten_storedText h, bind,
    Except.bind, check_ofInstant]

/-- The text of an instant before the year zero is no timestamp. -/
theorem readTimestamp_storedText_of_neg
    {t : Instant}
    (h : t.date.year < 0) :
    readTimestamp (String.ofList t.storedText) = .error (.component "year") := by
  obtain ⟨n, hyear⟩ := Int.eq_negSucc_of_lt_zero h
  have hdate : ∀ rest, readDate (dateText t.date ++ rest) = .error (.component "year") := by
    intro rest
    simp [dateText, hyear, yearText, readDate, readDigits, bind, Except.bind]
  simp only [readTimestamp, String.toList_ofList, trim_storedText]
  simp only [storedText, List.append_assoc, readWritten, hdate, bind, Except.bind]

end Time
end Keyring
