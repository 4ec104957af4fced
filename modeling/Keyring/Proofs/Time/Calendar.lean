import Keyring.Time.Calendar
import Mathlib.Tactic.Common

/-!
# Days and dates

Finding the date of a day is exact: the guess from the mean length of a year is corrected to the
year that holds the day, the months of that year are subtracted one by one, and counting the days
before the date that comes out gives the day back.
-/

namespace Keyring
namespace Time

/-- The days before the next year are those before a year and those of that year. -/
theorem daysBeforeYear_succ (year : Int) :
    daysBeforeYear (year + 1) = daysBeforeYear year + yearLength year := by
  simp only [yearLength, isLeap, Bool.and_eq_true, Bool.or_eq_true, beq_iff_eq, bne_iff_ne,
    daysBeforeYear]
  split <;> omega

/-- The year of a day starts no later than the day and ends after it. -/
theorem daysBeforeYear_yearOfDay (days : Int) :
    daysBeforeYear (yearOfDay days) ≤ days ∧
      days < daysBeforeYear (yearOfDay days + 1) := by
  unfold yearOfDay
  simp only
  -- All that matters of the guess is that it is the floor of days over the mean length of a year.
  generalize hguess : days * 400 / 146097 = guess
  have hlow : 146097 * guess ≤ days * 400 := by omega
  have hhigh : days * 400 < 146097 * (guess + 1) := by omega
  split
  · next hnext =>
      refine ⟨hnext, ?_⟩
      unfold daysBeforeYear
      omega
  · next hnext =>
      split
      · next hbefore =>
          rw [Int.sub_add_cancel]
          refine ⟨?_, hbefore⟩
          unfold daysBeforeYear
          omega
      · next hbefore =>
          exact ⟨by omega, by omega⟩

/-- The month of a day within its year is one of the months. -/
theorem monthOfDay_fst_lt
    {lengths : List Nat}
    {day : Nat}
    (h : day < lengths.foldr (· + ·) 0) :
    (monthOfDay lengths day).1 < lengths.length := by
  induction lengths generalizing day with
  | nil => simp at h
  | cons length rest ih =>
      rw [monthOfDay]
      split
      · simp
      · rw [List.foldr_cons] at h
        have hsmaller : day - length < rest.foldr (· + ·) 0 := by omega
        have hrest := ih hsmaller
        simpa using hrest

/-- The day of the month is one of the days of that month. -/
theorem monthOfDay_snd_lt
    {lengths : List Nat}
    {day : Nat}
    (h : day < lengths.foldr (· + ·) 0) :
    (monthOfDay lengths day).2 < (lengths[(monthOfDay lengths day).1]?).getD 0 := by
  induction lengths generalizing day with
  | nil => simp at h
  | cons length rest ih =>
      rw [monthOfDay]
      split
      · simpa
      · rw [List.foldr_cons] at h
        have hsmaller : day - length < rest.foldr (· + ·) 0 := by omega
        have hrest := ih hsmaller
        simpa using hrest

/-- The days of the months before and the day of the month add up to the day. -/
theorem foldr_take_monthOfDay (lengths : List Nat) (day : Nat) :
    (lengths.take (monthOfDay lengths day).1).foldr (· + ·) 0 + (monthOfDay lengths day).2 =
      day := by
  induction lengths generalizing day with
  | nil => simp [monthOfDay]
  | cons length rest ih =>
      rw [monthOfDay]
      split
      · simp
      · have hrest := ih (day - length)
        generalize monthOfDay rest (day - length) = found at hrest ⊢
        obtain ⟨month, left⟩ := found
        simp only [List.take_succ_cons, List.foldr_cons] at hrest ⊢
        omega

/-- The months of a year have as many days as the year. -/
theorem foldr_monthLengths (year : Int) :
    ((monthLengths (isLeap year)).foldr (· + ·) 0 : Nat) = yearLength year := by
  unfold yearLength
  cases isLeap year <;> rfl

/-- No month is longer than 31 days. -/
theorem monthLength_le (year : Int) (month : Nat) :
    monthLength year month ≤ 31 := by
  unfold monthLength
  generalize isLeap year = leap
  cases hlength : (monthLengths leap)[month - 1]? with
  | none => simp
  | some length =>
      have hmem := List.mem_of_getElem? hlength
      cases leap <;> simp [monthLengths] at hmem ⊢ <;> omega

/-- A day lies within the months of its year. -/
theorem day_lt_foldr_monthLengths (days : Int) :
    (days - daysBeforeYear (yearOfDay days)).toNat <
      (monthLengths (isLeap (yearOfDay days))).foldr (· + ·) 0 := by
  obtain ⟨hlow, hhigh⟩ := daysBeforeYear_yearOfDay days
  have hsucc := daysBeforeYear_succ (yearOfDay days)
  have hmonths := foldr_monthLengths (yearOfDay days)
  omega

/-- The date of a day exists. -/
theorem Date.valid_ofDays (days : Int) :
    (Date.ofDays days).Valid := by
  have hday := day_lt_foldr_monthLengths days
  have hmonth := monthOfDay_fst_lt hday
  have hrest := monthOfDay_snd_lt hday
  have htwelve : (monthLengths (isLeap (yearOfDay days))).length = 12 := rfl
  simp only [Date.Valid, Date.ofDays, monthLength, Nat.add_sub_cancel]
  omega

/-- Counting the days before the date of a day gives the day. -/
@[simp] theorem Date.toDays_ofDays (days : Int) :
    (Date.ofDays days).toDays = days := by
  obtain ⟨hlow, hhigh⟩ := daysBeforeYear_yearOfDay days
  have hsum := foldr_take_monthOfDay (monthLengths (isLeap (yearOfDay days)))
    (days - daysBeforeYear (yearOfDay days)).toNat
  simp only [Date.toDays, Date.ofDays, daysBeforeMonth, Nat.add_sub_cancel]
  omega

end Time
end Keyring
