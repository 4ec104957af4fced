import Mathlib.Data.List.Forall2
import Keyring.Proofs.Action
import Keyring.Proofs.Time.Timestamp

/-!
# Stored timestamps are a normal form

Reading a timestamp and storing it again takes every way of writing an instant to one text.  Two instants
have the same text exactly if they fall in the same millisecond, and texts are ordered like the instants:
the components of a text have fixed widths and stand in the order of their weights, and the calendar never
goes back.
-/

namespace Keyring

namespace Time

/-- Whether a date comes before another one in the calendar. -/
def Date.Before (d e : Date) : Prop :=
  d.year < e.year ∨
    (d.year = e.year ∧ (d.month < e.month ∨ (d.month = e.month ∧ d.day < e.day)))

section Dates

variable {d e : Date}

theorem daysBeforeYear_mono
    {year later : Int}
    (h : year ≤ later) :
    daysBeforeYear year ≤ daysBeforeYear later := by
  unfold daysBeforeYear
  omega

/-- A month is over before a later month of its year starts. -/
theorem daysBeforeMonth_add_le
    (year : Int)
    {month later : Nat}
    (hpos : 1 ≤ month)
    (h : month < later)
    (hle : later ≤ 12) :
    daysBeforeMonth year month + monthLength year month ≤ daysBeforeMonth year later := by
  have hall : ∀ leap : Bool, ∀ later < 13, ∀ month < later, 1 ≤ month →
      ((monthLengths leap).take (month - 1)).foldr (· + ·) 0 +
          ((monthLengths leap)[month - 1]?).getD 0 ≤
        ((monthLengths leap).take (later - 1)).foldr (· + ·) 0 := by
    decide
  exact hall (isLeap year) later (by omega) month h hpos

/-- A month is over when its year is. -/
theorem daysBeforeMonth_add_le_yearLength
    (year : Int)
    {month : Nat}
    (hpos : 1 ≤ month)
    (hle : month ≤ 12) :
    ((daysBeforeMonth year month + monthLength year month : Nat) : Int) ≤ yearLength year := by
  have hall : ∀ leap : Bool, ∀ month < 13, 1 ≤ month →
      ((((monthLengths leap).take (month - 1)).foldr (· + ·) 0 +
          ((monthLengths leap)[month - 1]?).getD 0 : Nat) : Int) ≤
        if leap then 366 else 365 := by
    decide
  exact hall (isLeap year) month (by omega) hpos

/-- Days are counted in the order of the dates. -/
theorem Date.Before.toDays_lt
    (h : d.Before e)
    (hd : d.Valid)
    (he : e.Valid) :
    d.toDays < e.toDays := by
  obtain ⟨hmonthPos, hmonthLe, hdayPos, hdayLe⟩ := hd
  obtain ⟨-, hmonthLe', hdayPos', -⟩ := he
  simp only [Date.toDays]
  rcases h with hyear | ⟨hyear, hmonth | ⟨hmonth, hday⟩⟩
  · have hwithin := daysBeforeMonth_add_le_yearLength d.year hmonthPos hmonthLe
    have hsucc := daysBeforeYear_succ d.year
    have hmono := daysBeforeYear_mono (show d.year + 1 ≤ e.year by omega)
    omega
  · rw [hyear] at hdayLe ⊢
    have hmonths := daysBeforeMonth_add_le e.year hmonthPos hmonth hmonthLe'
    omega
  · rw [hyear, hmonth]
    omega

theorem Date.before_trichotomy (d e : Date) :
    d.Before e ∨ d = e ∨ e.Before d := by
  obtain ⟨year, month, day⟩ := d
  obtain ⟨year', month', day'⟩ := e
  simp only [Date.Before, Date.mk.injEq]
  omega

/-- A later day has a later date. -/
theorem Date.before_ofDays
    {day later : Int}
    (h : day < later) :
    (Date.ofDays day).Before (Date.ofDays later) := by
  rcases Date.before_trichotomy (Date.ofDays day) (Date.ofDays later) with hbefore | heq | hafter
  · exact hbefore
  · have hdays := congrArg Date.toDays heq
    simp only [Date.toDays_ofDays] at hdays
    omega
  · have hdays := hafter.toDays_lt (Date.valid_ofDays later) (Date.valid_ofDays day)
    simp only [Date.toDays_ofDays] at hdays
    omega

end Dates

end Time

namespace Instant

/-- The number of whole milliseconds before the instant. -/
def millisecond (t : Instant) : Int :=
  t.nanoseconds / perMillisecond

section Digits

variable {as bs : List Char}

theorem append_lt_append
    (h : as < bs)
    (hlength : as.length = bs.length)
    (s s' : List Char) :
    as ++ s < bs ++ s' := by
  induction as generalizing bs with
  | nil =>
      rw [List.length_nil, eq_comm, List.length_eq_zero_iff] at hlength
      rw [hlength] at h
      exact absurd h (List.lt_irrefl [])
  | cons a as ih =>
      cases bs with
      | nil => cases hlength
      | cons b bs =>
          rw [List.cons_lt_cons_iff] at h
          rw [List.cons_append, List.cons_append, List.cons_lt_cons_iff]
          exact h.imp_right fun ⟨hhead, htail⟩ => ⟨hhead, ih htail (Nat.succ.inj hlength)⟩

theorem ofDigitChars_cons_eq
    (c : Char)
    (cs : List Char) :
    Nat.ofDigitChars 10 (c :: cs) 0 =
      Nat.pow 10 cs.length * (c.toNat - 48) + Nat.ofDigitChars 10 cs 0 := by
  rw [Nat.ofDigitChars_cons, Nat.ofDigitChars_eq_ofDigitChars_zero, Nat.mul_zero, Nat.zero_add]
  rfl

theorem ofDigitChars_lt_pow
    (h : ∀ c ∈ as, c.isDigit = true) :
    Nat.ofDigitChars 10 as 0 < Nat.pow 10 as.length := by
  induction as with
  | nil => simp
  | cons c cs ih =>
      have hpow : Nat.pow 10 (cs.length + 1) = Nat.pow 10 cs.length * 10 := rfl
      have hcs := ih fun d hd => h d (List.mem_cons_of_mem c hd)
      have hc : 48 ≤ c.toNat ∧ c.toNat ≤ 57 := Char.isDigit_iff_toNat.1 (h c List.mem_cons_self)
      have hdigit : Nat.pow 10 cs.length * (c.toNat - 48) ≤ Nat.pow 10 cs.length * 9 :=
        Nat.mul_le_mul_left _ (by omega)
      rw [ofDigitChars_cons_eq, List.length_cons, hpow]
      omega

/-- Digits are ordered like the numbers that they denote. -/
theorem lt_of_ofDigitChars_lt
    (ha : ∀ c ∈ as, c.isDigit = true)
    (hb : ∀ c ∈ bs, c.isDigit = true)
    (hlength : as.length = bs.length)
    (h : Nat.ofDigitChars 10 as 0 < Nat.ofDigitChars 10 bs 0) :
    as < bs := by
  induction as generalizing bs with
  | nil =>
      rw [List.length_nil, eq_comm, List.length_eq_zero_iff] at hlength
      rw [hlength] at h
      exact absurd h (Nat.lt_irrefl _)
  | cons a as ih =>
      cases bs with
      | nil => cases hlength
      | cons b bs =>
          have ha' := fun c hc => ha c (List.mem_cons_of_mem a hc)
          have hb' := fun c hc => hb c (List.mem_cons_of_mem b hc)
          have hlength' : as.length = bs.length := Nat.succ.inj hlength
          have hbounda : 48 ≤ a.toNat ∧ a.toNat ≤ 57 := Char.isDigit_iff_toNat.1 (ha a List.mem_cons_self)
          have hboundb : 48 ≤ b.toNat ∧ b.toNat ≤ 57 := Char.isDigit_iff_toNat.1 (hb b List.mem_cons_self)
          have hrest := ofDigitChars_lt_pow hb'
          rw [ofDigitChars_cons_eq, ofDigitChars_cons_eq, hlength'] at h
          rw [List.cons_lt_cons_iff]
          rcases Nat.lt_trichotomy a.toNat b.toNat with hlt | heq | hgt
          · exact .inl hlt
          · rw [heq] at h
            exact .inr ⟨Char.toNat_inj.1 heq, ih ha' hb' hlength' (by omega)⟩
          · -- A greater first digit outweighs all that follow it.
            have hweight : Nat.pow 10 bs.length * (b.toNat - 48 + 1) ≤ Nat.pow 10 bs.length * (a.toNat - 48) :=
              Nat.mul_le_mul_left _ (by omega)
            rw [Nat.mul_succ] at hweight
            omega

/-- Numbers that are padded to the same width are ordered like the numbers themselves. -/
theorem padded_lt_padded
    {width n m : Nat}
    (h : n < m)
    (hwidth : 0 < width)
    (hm : m < Nat.pow 10 width) :
    padded width n < padded width m := by
  have hlengthn := length_padded hwidth (Nat.lt_trans h hm)
  have hlengthm := length_padded hwidth hm
  refine lt_of_ofDigitChars_lt (fun _ => isDigit_of_mem_padded) (fun _ => isDigit_of_mem_padded)
    (hlengthn.trans hlengthm.symm) ?_
  rwa [ofDigitChars_padded, ofDigitChars_padded]

end Digits

section Texts

variable {t u : Instant}

/-- The parts of a date and of a year in the stored range fit the digits that its text gives them. -/
theorem InStoredRange.fits (h : t.InStoredRange) :
    t.date.year.toNat < Nat.pow 10 4 ∧ t.date.month < Nat.pow 10 2 ∧ t.date.day < Nat.pow 10 2 :=
  Time.Date.fits h (Time.Date.valid_ofDays t.day)

theorem padded_append_lt
    {width n m : Nat}
    (h : n < m)
    (hwidth : 0 < width)
    (hm : m < Nat.pow 10 width)
    (s s' : List Char) :
    padded width n ++ s < padded width m ++ s' :=
  append_lt_append (padded_lt_padded h hwidth hm)
    ((length_padded hwidth (Nat.lt_trans h hm)).trans (length_padded hwidth hm).symm) s s'

/-- The texts of dates are ordered like the dates. -/
theorem dateText_append_lt
    (h : t.date.Before u.date)
    (ht : t.InStoredRange)
    (hu : u.InStoredRange)
    (s s' : List Char) :
    dateText t.date ++ s < dateText u.date ++ s' := by
  obtain ⟨hyear, hmonth, hday⟩ := hu.fits
  simp only [dateText, Time.yearText_of_nonneg ht.1, Time.yearText_of_nonneg hu.1, List.append_assoc,
    List.cons_append]
  -- The first part that differs decides, and the parts before it are the same text.
  rcases h with hbefore | ⟨heq, hbefore | ⟨heq', hbefore⟩⟩
  · have hnat : t.date.year.toNat < u.date.year.toNat := by
      have hlow := ht.1
      omega
    exact padded_append_lt hnat (by decide) hyear _ _
  · rw [heq]
    refine List.append_left_lt (List.cons_lt_cons_self.2 ?_)
    exact padded_append_lt hbefore (by decide) hmonth _ _
  · rw [heq, heq']
    refine List.append_left_lt (List.cons_lt_cons_self.2 ?_)
    refine List.append_left_lt (List.cons_lt_cons_self.2 ?_)
    exact padded_append_lt hbefore (by decide) hday _ _

/-- The texts of seconds of a day are ordered like the seconds. -/
theorem clockText_append_lt
    {second later : Nat}
    (h : second < later)
    (hlater : later < 86400)
    (s s' : List Char) :
    clockText second ++ s < clockText later ++ s' := by
  obtain ⟨hhour, hminute, hsecond⟩ := clock_fits hlater
  have hparts : second / 3600 < later / 3600 ∨ (second / 3600 = later / 3600 ∧
      (second / 60 % 60 < later / 60 % 60 ∨
        (second / 60 % 60 = later / 60 % 60 ∧ second % 60 < later % 60))) := by
    omega
  simp only [clockText, List.append_assoc, List.cons_append]
  rcases hparts with hbefore | ⟨heq, hbefore | ⟨heq', hbefore⟩⟩
  · exact padded_append_lt hbefore (by decide) hhour _ _
  · rw [heq]
    refine List.append_left_lt (List.cons_lt_cons_self.2 ?_)
    exact padded_append_lt hbefore (by decide) hminute _ _
  · rw [heq, heq']
    refine List.append_left_lt (List.cons_lt_cons_self.2 ?_)
    refine List.append_left_lt (List.cons_lt_cons_self.2 ?_)
    exact padded_append_lt hbefore (by decide) hsecond _ _

/-- An earlier millisecond lies on an earlier day, at an earlier second of the same day, or earlier within
the same second. -/
theorem parts_lt_of_millisecond_lt (h : t.millisecond < u.millisecond) :
    t.day < u.day ∨ (t.day = u.day ∧ (t.secondOfDay < u.secondOfDay ∨
      (t.secondOfDay = u.secondOfDay ∧ t.fraction / 1000000 < u.fraction / 1000000))) := by
  obtain ⟨n⟩ := t
  obtain ⟨m⟩ := u
  simp only [millisecond, day, secondOfDay, fraction, seconds, perSecond, perMillisecond,
    secondsPerDay] at h ⊢
  omega

/-- Stored texts are ordered like the milliseconds of their instants. -/
theorem storedText_lt_storedText
    (h : t.millisecond < u.millisecond)
    (ht : t.InStoredRange)
    (hu : u.InStoredRange) :
    t.storedText < u.storedText := by
  have hfraction := u.fraction_lt
  have hmilli : u.fraction / 1000000 < Nat.pow 10 3 := show u.fraction / 1000000 < 1000 by omega
  simp only [storedText, List.append_assoc, List.cons_append]
  rcases parts_lt_of_millisecond_lt h with hday | ⟨hday, hsecond | ⟨hsecond, hbefore⟩⟩
  · exact dateText_append_lt (Time.Date.before_ofDays hday) ht hu _ _
  · rw [show t.date = u.date from congrArg Time.Date.ofDays hday]
    refine List.append_left_lt (List.cons_lt_cons_self.2 ?_)
    exact clockText_append_lt hsecond u.secondOfDay_lt _ _
  · rw [show t.date = u.date from congrArg Time.Date.ofDays hday, hsecond]
    refine List.append_left_lt (List.cons_lt_cons_self.2 ?_)
    refine List.append_left_lt (List.cons_lt_cons_self.2 ?_)
    exact padded_append_lt hbefore (by decide) hmilli _ _

theorem storedText_eq_of_millisecond_eq (h : t.millisecond = u.millisecond) :
    t.storedText = u.storedText := by
  have hcut : t.cutToMillisecond = u.cutToMillisecond := by
    simp only [cutToMillisecond, mk.injEq]
    exact congrArg (· * perMillisecond) h
  rw [← storedText_cutToMillisecond t, hcut, storedText_cutToMillisecond]

theorem storedText_lt_iff
    (ht : t.InStoredRange)
    (hu : u.InStoredRange) :
    t.storedText < u.storedText ↔ t.millisecond < u.millisecond := by
  constructor
  · intro h
    rcases Int.lt_trichotomy t.millisecond u.millisecond with hlt | heq | hgt
    · exact hlt
    · rw [storedText_eq_of_millisecond_eq heq] at h
      exact absurd h (List.lt_irrefl _)
    · exact absurd h (List.lt_asymm (storedText_lt_storedText hgt hu ht))
  · exact fun h => storedText_lt_storedText h ht hu

theorem storedText_eq_iff
    (ht : t.InStoredRange)
    (hu : u.InStoredRange) :
    t.storedText = u.storedText ↔ t.millisecond = u.millisecond := by
  constructor
  · intro h
    have hnot : ¬ t.millisecond < u.millisecond := by
      rw [← storedText_lt_iff ht hu, h]
      exact List.lt_irrefl _
    have hnot' : ¬ u.millisecond < t.millisecond := by
      rw [← storedText_lt_iff hu ht, h]
      exact List.lt_irrefl _
    omega
  · exact storedText_eq_of_millisecond_eq

end Texts

section Form

/-- The form of a stored timestamp: zeros stand for digits, everything else for itself. -/
def storedForm : List Char :=
  "0000-00-00T00:00:00.000Z".toList

/-- Whether a character may stand where a form has another one. -/
def Fits (f c : Char) : Prop :=
  if f = '0' then c.isDigit = true else c = f

/-- Whether a text has the form of a stored timestamp. -/
def InStoredForm (s : String) : Prop :=
  List.Forall₂ Fits storedForm s.toList

theorem InStoredForm.length_eq
    {s : String}
    (h : InStoredForm s) :
    s.length = 24 := by
  rw [← String.length_toList, ← List.Forall₂.length_eq h]
  rfl

theorem fits_padded
    {width n : Nat}
    (hlength : (padded width n).length = width) :
    List.Forall₂ Fits (List.replicate width '0') (padded width n) := by
  refine List.forall₂_iff_get.2 ⟨by rw [List.length_replicate, hlength], fun i hi hi' => ?_⟩
  have hdigit : ((padded width n).get ⟨i, hi'⟩).isDigit = true :=
    isDigit_of_mem_padded (List.get_mem _ _)
  simpa [Fits] using hdigit

theorem fits_mark
    {fs cs fs' cs' : List Char}
    {c : Char}
    (hc : c ≠ '0')
    (h : List.Forall₂ Fits fs cs)
    (h' : List.Forall₂ Fits fs' cs') :
    List.Forall₂ Fits (fs ++ c :: fs') (cs ++ c :: cs') := by
  have hfits : Fits c c := by simp [Fits, hc]
  exact List.rel_append h (.cons hfits h')

/-- The text of an instant in the stored range has the form of a stored timestamp. -/
theorem inStoredForm_storedText
    {t : Instant}
    (h : t.InStoredRange) :
    InStoredForm (String.ofList t.storedText) := by
  have hfraction := t.fraction_lt
  have hmilli : t.fraction / 1000000 < Nat.pow 10 3 := show t.fraction / 1000000 < 1000 by omega
  obtain ⟨hyear, hmonth, hday⟩ := h.fits
  obtain ⟨hhour, hminute, hsecond⟩ := clock_fits t.secondOfDay_lt
  have hpadded : ∀ {width n : Nat}, 0 < width → n < Nat.pow 10 width →
      List.Forall₂ Fits (List.replicate width '0') (padded width n) :=
    fun hwidth hn => fits_padded (length_padded hwidth hn)
  have hdate := fits_mark (c := '-') (by decide) (fits_mark (c := '-') (by decide)
    (hpadded (by decide) hyear) (hpadded (by decide) hmonth)) (hpadded (by decide) hday)
  have hclock := fits_mark (c := ':') (by decide) (fits_mark (c := ':') (by decide)
    (hpadded (by decide) hhour) (hpadded (by decide) hminute)) (hpadded (by decide) hsecond)
  have htext := fits_mark (c := 'Z') (by decide) (fits_mark (c := '.') (by decide)
    (fits_mark (c := 'T') (by decide) hdate hclock) (hpadded (by decide) hmilli)) .nil
  rw [InStoredForm, String.toList_ofList, storedText, dateText, clockText,
    Time.yearText_of_nonneg h.1]
  exact htext

end Form

end Instant

namespace Time

/-- What the key store writes for a timestamp that it has read. -/
def restamp (raw : String) : Except TimestampFault (Option String) :=
  (readTimestamp raw).map Instant.stored?

theorem restamp_of_read
    {raw : String}
    {t : Instant}
    (hread : readTimestamp raw = .ok t)
    (hrange : t.InStoredRange) :
    restamp raw = .ok (some (String.ofList t.storedText)) := by
  rw [restamp, hread, Except.map, Instant.stored?_eq, if_neg (Int.not_lt.2 hrange.2)]

/-- What the key store writes for a timestamp in the years from 0 to 9999 is a normal form.

It has 24 characters of a fixed form, reads back as the instant cut down to whole milliseconds, and is
written for itself again.  Two timestamps are written alike exactly if their instants fall in the same
millisecond, and otherwise the texts are ordered like the instants. -/
theorem restamp_normal
    {raw : String}
    {t : Instant}
    (hread : readTimestamp raw = .ok t)
    (hrange : t.InStoredRange) :
    ∃ s,
      restamp raw = .ok (some s) ∧
      Instant.InStoredForm s ∧
      s.length = 24 ∧
      readTimestamp s = .ok t.cutToMillisecond ∧
      restamp s = .ok (some s) ∧
      ∀ raw' t', readTimestamp raw' = .ok t' → t'.InStoredRange →
        ∃ s',
          restamp raw' = .ok (some s') ∧
          (s = s' ↔ t.millisecond = t'.millisecond) ∧
          (s < s' ↔ t.millisecond < t'.millisecond) := by
  have hback := readTimestamp_storedText hrange
  have hagain := restamp_of_read hback hrange.cutToMillisecond
  rw [Instant.storedText_cutToMillisecond] at hagain
  have hform := Instant.inStoredForm_storedText hrange
  refine ⟨_, restamp_of_read hread hrange, hform, hform.length_eq, hback, hagain, ?_⟩
  intro raw' t' hread' hrange'
  refine ⟨_, restamp_of_read hread' hrange', ?_, ?_⟩
  · rw [String.ofList_inj]
    exact Instant.storedText_eq_iff hrange hrange'
  · rw [String.lt_iff, String.toList_ofList, String.toList_ofList]
    exact Instant.storedText_lt_iff hrange hrange'

theorem restamp_normal_turnOfYear :
    ∃ s s',
      restamp "1999-12-31t23:59:59.9999-00:30" = .ok (some s) ∧
      restamp "2000-01-01T05:30:00+05:00" = .ok (some s') ∧
      restamp s = .ok (some s) ∧
      s.length = 24 ∧
      s < s' := by
  have hread : readTimestamp "1999-12-31t23:59:59.9999-00:30" = .ok ⟨63113905799999900000⟩ := by
    decide +kernel
  have hread' : readTimestamp "2000-01-01T05:30:00+05:00" = .ok ⟨63113905800000000000⟩ := by
    decide +kernel
  obtain ⟨s, hs, -, hlength, -, hagain, hordered⟩ := restamp_normal hread (by decide +kernel)
  obtain ⟨s', hs', -, hlt⟩ := hordered _ _ hread' (by decide +kernel)
  exact ⟨s, s', hs, hs', hagain, hlength, hlt.2 (by decide)⟩

example : restamp "2000-03-01T00:00:00.0009+00:01" = .ok (some "2000-02-29T23:59:00.000Z") := by
  decide +kernel

end Time
end Keyring
