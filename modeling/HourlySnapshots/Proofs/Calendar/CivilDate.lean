import HourlySnapshots.Calendar.Date
import HourlySnapshots.Calendar.Instant
import Mathlib.Tactic.Common
import Mathlib.Tactic.IntervalCases

/-!
# Days and dates

Every day has a date of the calendar, and is found again by it.
-/

namespace HourlySnapshots

namespace Date

/-! ## Years that begin in March -/

/-- The days before the first of March of a year, counted from that of the year 0. -/
def daysBefore (year : Int) : Int := 365 * year + year / 4 - year / 100 + year / 400

/-- The date that lies a number of days after the first of March of a year. -/
def ofMarch (year day : Int) : Date :=
  let month := (5 * day + 2) / 153
  let civilMonth := if month < 10 then month + 3 else month - 9
  { year := year + (if civilMonth ≤ 2 then 1 else 0)
    month := civilMonth.toNat
    day := (day - (153 * month + 2) / 5 + 1).toNat }

/-- The calendar repeats itself after 400 years. -/
theorem daysBefore_era (era year : Int) :
    daysBefore (400 * era + year) = 146097 * era + daysBefore year := by
  unfold daysBefore
  omega

/-- A year ends with a leap day if the next one, in which its February lies, is a leap year. -/
theorem daysBefore_succ (year : Int) :
    daysBefore (year + 1) = daysBefore year + if isLeapYear (year + 1) then 366 else 365 := by
  have hleap : isLeapYear (year + 1) = true ↔
      (year + 1) % 4 = 0 ∧ ((year + 1) % 100 ≠ 0 ∨ (year + 1) % 400 = 0) := by
    simp [isLeapYear]
  unfold daysBefore
  split
  · next h =>
    have hyear := hleap.mp h
    omega
  · next h =>
    rw [hleap] at h
    omega

/-- The year of a day in a century of 36524 days, in which `leaps` leap days have passed. -/
theorem year_of_century {day year : Int} (leaps : Int) (h0 : 0 ≤ day) (h1 : day ≤ 36523)
    (hge : day / 1460 ≤ leaps) (hle : leaps ≤ (day + 72) / 1460)
    (hyear : year = (day - leaps) / 365) :
    0 ≤ year ∧ year ≤ 99 ∧ 365 * year + year / 4 ≤ day ∧
      day < 365 * (year + 1) + (year + 1) / 4 := by
  have hfirst : year / 4 ≤ leaps := by omega
  have hlast : leaps ≤ (year + 1) / 4 := by omega
  omega

/-- Within a century, every fourth year has a leap day. -/
theorem daysBefore_of_century {century year : Int} (hc0 : 0 ≤ century) (hc1 : century ≤ 3)
    (hy0 : 0 ≤ year) (hy1 : year ≤ 99) :
    daysBefore (100 * century + year) = 36524 * century + (365 * year + year / 4) := by
  unfold daysBefore
  omega

theorem year_of_era {day year : Int} (h0 : 0 ≤ day) (h1 : day ≤ 146096)
    (hyear : year = (day - day / 1460 + day / 36524 - day / 146096) / 365) :
    0 ≤ year ∧ year ≤ 399 ∧ daysBefore year ≤ day ∧ day < daysBefore (year + 1) := by
  rcases Int.lt_or_le day 146096 with hlt | hge
  · obtain ⟨century, rest, hday, hc0, hc1, hr0, hr1⟩ : ∃ century rest : Int,
        day = 36524 * century + rest ∧ 0 ≤ century ∧ century ≤ 3 ∧ 0 ≤ rest ∧ rest ≤ 36523 :=
      ⟨day / 36524, day % 36524, by omega, by omega, by omega, by omega, by omega⟩
    obtain ⟨leaps, hleaps⟩ : ∃ leaps, day / 1460 = 25 * century + leaps :=
      ⟨day / 1460 - 25 * century, by omega⟩
    obtain ⟨hy0, hy1, hfirst, hlast⟩ :=
      year_of_century leaps hr0 hr1 (by omega) (by omega) rfl
    have hsplit : year = 100 * century + (rest - leaps) / 365 := by omega
    generalize (rest - leaps) / 365 = y at *
    have hbefore := daysBefore_of_century hc0 hc1 hy0 hy1
    rcases Int.lt_or_eq_of_le hy1 with hmore | rfl
    · have hafter : daysBefore (100 * century + (y + 1)) = _ :=
        daysBefore_of_century hc0 hc1 (by omega) (by omega)
      rw [hsplit, Int.add_assoc, hbefore, hafter]
      omega
    · -- the next year opens a century, or the next era
      rw [hsplit, hbefore]
      unfold daysBefore
      omega
  · obtain rfl : day = 146096 := by omega
    obtain rfl : year = 399 := by omega
    unfold daysBefore
    omega

/-! ## Days of a year -/

/-- Every day lies in a year that begins in March. -/
theorem exists_march (days : Int) :
    ∃ year day : Int, days + 719468 = daysBefore year + day ∧ 0 ≤ day ∧
      daysBefore year + day < daysBefore (year + 1) ∧ ofDays days = ofMarch year day := by
  let era := (days + 719468) / 146097
  let dayOfEra := (days + 719468) % 146097
  let yearOfEra :=
    (dayOfEra - dayOfEra / 1460 + dayOfEra / 36524 - dayOfEra / 146096) / 365
  obtain ⟨hy0, hy1, hfirst, hlast⟩ : 0 ≤ yearOfEra ∧ yearOfEra ≤ 399 ∧
      daysBefore yearOfEra ≤ dayOfEra ∧ dayOfEra < daysBefore (yearOfEra + 1) :=
    year_of_era (by omega) (by omega) rfl
  have hdays : days + 719468 = 146097 * era + dayOfEra := by omega
  have hday : dayOfEra - (365 * yearOfEra + yearOfEra / 4 - yearOfEra / 100) =
      dayOfEra - daysBefore yearOfEra := by
    unfold daysBefore
    omega
  refine ⟨400 * era + yearOfEra, dayOfEra - daysBefore yearOfEra, ?_, by omega, ?_, ?_⟩
  · rw [daysBefore_era, hdays]
    omega
  · rw [Int.add_assoc, daysBefore_era, daysBefore_era]
    omega
  · have hyear : yearOfEra + era * 400 = 400 * era + yearOfEra := by omega
    unfold ofMarch
    rw [← hyear, ← hday]
    rfl

theorem toDays_ofMarch (year : Int) {day : Int} (h0 : 0 ≤ day) (h1 : day ≤ 365) :
    (ofMarch year day).toDays = daysBefore year + day - 719468 := by
  have hyear : year / 400 * 146097 + (year % 400 * 365 + year % 400 / 4 - year % 400 / 100) =
      daysBefore year := by
    unfold daysBefore
    omega
  have hmonth0 : 0 ≤ (5 * day + 2) / 153 := by omega
  have hmonth1 : (5 * day + 2) / 153 ≤ 11 := by omega
  have hfirst : 0 ≤ day - (153 * ((5 * day + 2) / 153) + 2) / 5 + 1 := by omega
  unfold ofMarch toDays
  simp only [Int.toNat_of_nonneg hfirst]
  generalize (5 * day + 2) / 153 = month at *
  rcases Int.lt_or_le month 10 with hlt | hge
  · have hcast : ((month + 3).toNat : Int) = month + 3 := by omega
    have hlate : ¬ (month + 3).toNat ≤ 2 := by omega
    have hround : (month + 3 + 9) % 12 = month := by omega
    simp only [if_pos hlt, if_neg hlate, hcast, hround, if_neg (show ¬ month + 3 ≤ 2 by omega)]
    omega
  · have hcast : ((month - 9).toNat : Int) = month - 9 := by omega
    have hearly : (month - 9).toNat ≤ 2 := by omega
    have hround : (month - 9 + 9) % 12 = month := by omega
    simp only [if_neg (show ¬ month < 10 by omega), if_pos hearly, hcast, hround,
      if_pos (show month - 9 ≤ 2 by omega)]
    omega

theorem isValid_ofMarch {year day : Int} (h0 : 0 ≤ day)
    (h1 : daysBefore year + day < daysBefore (year + 1)) : (ofMarch year day).isValid = true := by
  have hlength : day < if isLeapYear (year + 1) then 366 else 365 := by
    rw [daysBefore_succ] at h1
    omega
  have hmonth0 : 0 ≤ (5 * day + 2) / 153 := by omega
  have hmonth1 : (5 * day + 2) / 153 ≤ 11 := by split at hlength <;> omega
  unfold ofMarch isValid
  generalize hmonth : (5 * day + 2) / 153 = month at *
  -- how long the last month is depends on the year
  cases hleap : isLeapYear (year + 1) <;>
    simp only [hleap, Bool.false_eq_true, if_false, if_true] at hlength <;>
    interval_cases month <;> simp [daysInMonth, hleap] <;> omega

/-! ## Days of the calendar -/

/-- A date that is made of a number of days has that number. -/
theorem toDays_ofDays (days : Int) : (ofDays days).toDays = days := by
  obtain ⟨year, day, hdays, h0, h1, hdate⟩ := exists_march days
  have h365 : day ≤ 365 := by
    rw [daysBefore_succ] at h1
    split at h1 <;> omega
  rw [hdate, toDays_ofMarch year h0 h365]
  omega

theorem isValid_ofDays (days : Int) : (ofDays days).isValid = true := by
  obtain ⟨year, day, -, h0, h1, hdate⟩ := exists_march days
  rw [hdate]
  exact isValid_ofMarch h0 h1

/-- A valid date has a month and a day of two digits. -/
theorem lt_of_isValid {date : Date} (h : date.isValid = true) :
    date.month ≤ 12 ∧ date.day ≤ 31 := by
  have hlength : daysInMonth date.year date.month ≤ 31 := by
    unfold daysInMonth
    split
    · split <;> decide
    · split <;> decide
  simp only [isValid, Bool.and_eq_true, decide_eq_true_eq] at h
  omega

end Date

/-- The years of instants are those that a text may name. -/
theorem Instant.year_date (t : Instant) :
    -262143 ≤ (Date.ofDays (t.secs / 86400)).year ∧
      (Date.ofDays (t.secs / 86400)).year ≤ 262142 := by
  have hge := t.secs_ge
  have hle := t.secs_le
  obtain ⟨year, day, hdays, h0, h1, hdate⟩ := Date.exists_march (t.secs / 86400)
  rw [hdate]
  unfold Date.daysBefore at hdays h1
  unfold Date.ofMarch
  simp only
  -- the first day of all is in the January of a year, and the last one in the December
  constructor
  · by_contra hout
    obtain rfl : year = -262144 := by omega
    omega
  · by_contra hout
    obtain rfl : year = 262142 := by omega
    omega

end HourlySnapshots
