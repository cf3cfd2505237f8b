import Mathlib.Tactic.Common
import TuyaMiniSwitch.App.Time

/-!
# Application - The weekday of a date

The second half of {lit}`get_ftime` finds the weekday from the date alone: the
last two digits of the year, a table for the months, and a day less in January
and February of a year that those two digits make a leap year.  The digits do not
tell 2100 from 2000, so the weekday falls behind the day count twice in that
year: at its start by the century's missing shift, and in March again by the leap
day that the year does not have.

Main results:

- Theorem {lit}`ofDay_lag`: how far the sum of the code is off, for every date of
  the two centuries from 2000.
- Theorem {lit}`get_ftime_wday_iff`: the weekday is the one of the day count
  exactly before the year 2100.
-/

namespace Time

open Calendar

/-! ## The sum over the integers -/

/-- The values of {lit}`WdaySteps` before any variable is too narrow for them. -/
structure ExactWdaySteps where
  y : Int
  ofYear : Int
  ofMonth : Int
  ofLeap : Int
  ofDay : Int

/-- The sum that {lit}`get_ftime` forms for the weekday, over the integers. -/
def exactWdaySteps (year month day : Nat) : ExactWdaySteps :=
  let y : Int := year % 100
  let ofYear := y / 12 + y % 12 + y % 12 / 4
  let ofMonth := ofYear + (mIdx.getD (month - 1) 0).toNat
  let ofLeap := if y % 4 = 0 ∧ (month = 1 ∨ month = 2) then ofMonth - 1 else ofMonth
  { y, ofYear, ofMonth, ofLeap, ofDay := ofLeap + day }

/-- The variables of the code hold the values of the sum. -/
structure WdayHolds (s : WdaySteps) (e : ExactWdaySteps) : Prop where
  y : (s.y.toNat : Int) = e.y
  ofYear : (s.ofYear.toNat : Int) = e.ofYear
  ofMonth : (s.ofMonth.toNat : Int) = e.ofMonth
  ofLeap : (s.ofLeap.toNat : Int) = e.ofLeap
  ofDay : (s.ofDay.toNat : Int) = e.ofDay

theorem month_cases {month : Nat} (hlow : 1 ≤ month) (hhigh : month ≤ 12) :
    month = 1 ∨ month = 2 ∨ month = 3 ∨ month = 4 ∨ month = 5 ∨ month = 6 ∨ month = 7 ∨
      month = 8 ∨ month = 9 ∨ month = 10 ∨ month = 11 ∨ month = 12 := by
  omega

theorem mIdx_range {month : Nat} (hlow : 1 ≤ month) (hhigh : month ≤ 12) :
    (mIdx.getD (month - 1) 0).toNat ≤ 6 ∧
      (month ≤ 2 → 1 ≤ (mIdx.getD (month - 1) 0).toNat) := by
  rcases month_cases hlow hhigh with
    rfl | rfl | rfl | rfl | rfl | rfl | rfl | rfl | rfl | rfl | rfl | rfl <;> decide

section Widths

variable (year : UInt16) (month day : UInt8)

theorem y_exact : ((wdaySteps year month day).y.toNat : Int) =
    (exactWdaySteps year.toNat month.toNat day.toNat).y := by
  have hdef : (wdaySteps year month day).y = year % 100 := rfl
  rw [hdef, UInt16.toNat_mod]
  exact Int.natCast_emod _ _

theorem y_range (n m d : Nat) :
    0 ≤ (exactWdaySteps n m d).y ∧ (exactWdaySteps n m d).y < 100 := by
  have hexact : (exactWdaySteps n m d).y = (n : Int) % 100 := rfl
  omega

theorem ofYear_range (n m d : Nat) :
    0 ≤ (exactWdaySteps n m d).ofYear ∧ (exactWdaySteps n m d).ofYear ≤ 21 := by
  have hy := y_range n m d
  have hexact : (exactWdaySteps n m d).ofYear = (exactWdaySteps n m d).y / 12 +
    (exactWdaySteps n m d).y % 12 + (exactWdaySteps n m d).y % 12 / 4 := rfl
  omega

theorem ofYear_exact : ((wdaySteps year month day).ofYear.toNat : Int) =
    (exactWdaySteps year.toNat month.toNat day.toNat).ofYear := by
  have hy := y_exact year month day
  have hrange := y_range year.toNat month.toNat day.toNat
  have hdef : (wdaySteps year month day).ofYear =
    ((wdaySteps year month day).y / 12 + (wdaySteps year month day).y % 12 +
      ((wdaySteps year month day).y % 12) / 4).toUInt8 := rfl
  have hexact : (exactWdaySteps year.toNat month.toNat day.toNat).ofYear =
    (exactWdaySteps year.toNat month.toNat day.toNat).y / 12 +
      (exactWdaySteps year.toNat month.toNat day.toNat).y % 12 +
        (exactWdaySteps year.toNat month.toNat day.toNat).y % 12 / 4 := rfl
  rw [hdef, hexact]
  simp only [UInt16.toNat_toUInt8, UInt16.toNat_add, UInt16.toNat_div, UInt16.toNat_mod,
    UInt16.reduceToNat]
  omega

variable {month} {day}

theorem ofMonth_exact (hmonth : 1 ≤ month.toNat) (hmonth' : month.toNat ≤ 12) :
    ((wdaySteps year month day).ofMonth.toNat : Int) =
      (exactWdaySteps year.toNat month.toNat day.toNat).ofMonth := by
  have hyear := ofYear_exact year month day
  have hrange := ofYear_range year.toNat month.toNat day.toNat
  have hindex := (mIdx_range hmonth hmonth').1
  have hdef : (wdaySteps year month day).ofMonth =
    (wdaySteps year month day).ofYear + mIdx.getD (month.toNat - 1) 0 := rfl
  have hexact : (exactWdaySteps year.toNat month.toNat day.toNat).ofMonth =
    (exactWdaySteps year.toNat month.toNat day.toNat).ofYear +
      (mIdx.getD (month.toNat - 1) 0).toNat := rfl
  rw [hdef, UInt8.toNat_add]
  omega

theorem leap_condition :
    ((wdaySteps year month day).y % 4 = 0 ∧ (month = 1 ∨ month = 2)) ↔
      ((exactWdaySteps year.toNat month.toNat day.toNat).y % 4 = 0 ∧
        (month.toNat = 1 ∨ month.toNat = 2)) := by
  have hy := y_exact year month day
  have hyear : (wdaySteps year month day).y % 4 = 0 ↔
      (exactWdaySteps year.toNat month.toNat day.toNat).y % 4 = 0 := by
    rw [← UInt16.toNat_inj, UInt16.toNat_mod]
    simp only [UInt16.reduceToNat]
    omega
  have hone : month = 1 ↔ month.toNat = 1 := UInt8.toNat_inj.symm
  have htwo : month = 2 ↔ month.toNat = 2 := UInt8.toNat_inj.symm
  rw [hyear, hone, htwo]

/-- The leap correction never takes a day off an empty sum. -/
theorem ofLeap_exact (hmonth : 1 ≤ month.toNat) (hmonth' : month.toNat ≤ 12) :
    ((wdaySteps year month day).ofLeap.toNat : Int) =
      (exactWdaySteps year.toNat month.toNat day.toNat).ofLeap := by
  have hsum : ((wdaySteps year month day).ofMonth.toNat : Int) =
      (exactWdaySteps year.toNat month.toNat day.toNat).ofMonth :=
    ofMonth_exact year hmonth hmonth'
  have hdef : (wdaySteps year month day).ofLeap =
    if (wdaySteps year month day).y % 4 = 0 ∧ (month = 1 ∨ month = 2) then
      (wdaySteps year month day).ofMonth - 1 else (wdaySteps year month day).ofMonth := rfl
  have hexact : (exactWdaySteps year.toNat month.toNat day.toNat).ofLeap =
    if (exactWdaySteps year.toNat month.toNat day.toNat).y % 4 = 0 ∧
        (month.toNat = 1 ∨ month.toNat = 2) then
      (exactWdaySteps year.toNat month.toNat day.toNat).ofMonth - 1
    else (exactWdaySteps year.toNat month.toNat day.toNat).ofMonth := rfl
  rw [hdef, hexact]
  by_cases hleap : (wdaySteps year month day).y % 4 = 0 ∧ (month = 1 ∨ month = 2)
  · have hleap' := (leap_condition year).mp hleap
    have hrange := ofYear_range year.toNat month.toNat day.toNat
    have hindex := (mIdx_range hmonth hmonth').2 (by omega)
    have hexact' : (exactWdaySteps year.toNat month.toNat day.toNat).ofMonth =
      (exactWdaySteps year.toNat month.toNat day.toNat).ofYear +
        (mIdx.getD (month.toNat - 1) 0).toNat := rfl
    have hone : (1 : UInt8).toNat = 1 := rfl
    have hpos : (1 : UInt8) ≤ (wdaySteps year month day).ofMonth := by
      rw [UInt8.le_iff_toNat_le, hone]
      omega
    rw [if_pos hleap, if_pos hleap', UInt8.toNat_sub_of_le _ _ hpos, hone]
    omega
  · have hleap' := (leap_condition year).not.mp hleap
    rw [if_neg hleap, if_neg hleap']
    exact hsum

theorem ofDay_exact (hmonth : 1 ≤ month.toNat) (hmonth' : month.toNat ≤ 12)
    (hday : day.toNat ≤ 31) :
    ((wdaySteps year month day).ofDay.toNat : Int) =
      (exactWdaySteps year.toNat month.toNat day.toNat).ofDay := by
  have hsum : ((wdaySteps year month day).ofLeap.toNat : Int) =
      (exactWdaySteps year.toNat month.toNat day.toNat).ofLeap :=
    ofLeap_exact year hmonth hmonth'
  have hrange := ofYear_range year.toNat month.toNat day.toNat
  have hindex := (mIdx_range hmonth hmonth').1
  have hle : (exactWdaySteps year.toNat month.toNat day.toNat).ofLeap ≤ 27 := by
    have hexact : (exactWdaySteps year.toNat month.toNat day.toNat).ofMonth =
      (exactWdaySteps year.toNat month.toNat day.toNat).ofYear +
        (mIdx.getD (month.toNat - 1) 0).toNat := rfl
    simp only [exactWdaySteps] at hexact hrange ⊢
    split <;> omega
  have hdef : (wdaySteps year month day).ofDay = (wdaySteps year month day).ofLeap + day := rfl
  have hexact : (exactWdaySteps year.toNat month.toNat day.toNat).ofDay =
    (exactWdaySteps year.toNat month.toNat day.toNat).ofLeap + day.toNat := rfl
  rw [hdef, UInt8.toNat_add]
  omega

/-- No variable is too narrow for the sum of a date. -/
theorem wdaySteps_exact (hmonth : 1 ≤ month.toNat) (hmonth' : month.toNat ≤ 12)
    (hday : day.toNat ≤ 31) :
    WdayHolds (wdaySteps year month day)
      (exactWdaySteps year.toNat month.toNat day.toNat) where
  y := y_exact year month day
  ofYear := ofYear_exact year month day
  ofMonth := ofMonth_exact year hmonth hmonth'
  ofLeap := ofLeap_exact year hmonth hmonth'
  ofDay := ofDay_exact year hmonth hmonth' hday

end Widths

/-! ## The sum against the day count -/

/-- The table holds what the months of a common year add. -/
theorem mIdx_common {month : Nat} (hlow : 1 ≤ month) (hhigh : month ≤ 12) :
    (mIdx.getD (month - 1) 0).toNat % 7 = (6 + daysBeforeMonth 2001 month) % 7 := by
  rcases month_cases hlow hhigh with
    rfl | rfl | rfl | rfl | rfl | rfl | rfl | rfl | rfl | rfl | rfl | rfl <;> rfl

/-- From March on a leap year is a day ahead of a common one. -/
theorem daysBeforeMonth_common (year : Nat) {month : Nat} (hlow : 1 ≤ month)
    (hhigh : month ≤ 12) :
    daysBeforeMonth year month =
      daysBeforeMonth 2001 month + if IsLeap year ∧ 3 ≤ month then 1 else 0 := by
  have hcommon : ¬ IsLeap 2001 := by decide
  rcases month_cases hlow hhigh with
    rfl | rfl | rfl | rfl | rfl | rfl | rfl | rfl | rfl | rfl | rfl | rfl <;>
    by_cases hleap : IsLeap year <;> simp [daysBeforeMonth, daysInMonth, hleap, hcommon]

/-- How many days the sum of the code is ahead of the day count. -/
def lag (date : Date) : Int :=
  if date.year < 2100 then 0
  else if date.year = 2100 ∧ date.month ≤ 2 then 1
  else 2

/-- Two digits of the year count its days modulo seven as twelfths and fours do. -/
theorem ofYear_mod {y : Int} :
    (y / 12 + y % 12 + y % 12 / 4) % 7 = (y + y / 4) % 7 := by
  omega

/-- The sum of the code modulo seven, with the days before the month of a common
year in the place of the table. -/
theorem ofDay_mod (date : Date) (correction : Int)
    (hcorrection : correction =
      if (date.year : Int) % 100 % 4 = 0 ∧ (date.month = 1 ∨ date.month = 2) then 1 else 0) :
    (exactWdaySteps date.year date.month date.day).ofDay % 7 =
      ((date.year : Int) % 100 + (date.year : Int) % 100 / 4 + 6 +
        daysBeforeMonth 2001 date.month - correction + date.day) % 7 := by
  have htable := mIdx_common date.month_pos date.month_le
  have hyear : ((date.year : Int) % 100 / 12 + (date.year : Int) % 100 % 12 +
      (date.year : Int) % 100 % 12 / 4) % 7 =
        ((date.year : Int) % 100 + (date.year : Int) % 100 / 4) % 7 := ofYear_mod
  have hsum : (exactWdaySteps date.year date.month date.day).ofDay =
      (date.year : Int) % 100 / 12 + (date.year : Int) % 100 % 12 +
        (date.year : Int) % 100 % 12 / 4 + (mIdx.getD (date.month - 1) 0).toNat -
          correction + date.day := by
    simp only [exactWdaySteps, hcorrection]
    split <;> omega
  omega

/-- The days before a year of the first two centuries. -/
theorem daysBeforeYear_since {year : Nat} (hlow : 2000 ≤ year) (hhigh : year < 2200) :
    (daysBeforeYear year : Int) = 730485 + 365 * ((year : Int) - 2000) +
      ((year : Int) - 1997) / 4 - if 2100 < year then 1 else 0 := by
  have hclosed := daysBeforeYear_eq year
  split <;> omega

/-- Whole weeks do not change a weekday. -/
theorem weeks_emod {a b : Int} (weeks : Int) (h : a = b + 7 * weeks) : a % 7 = b % 7 := by
  rw [h, Int.add_mul_emod_self_left]

/-- In the first century the sum differs from the day count by 52 weeks a year. -/
theorem ofDay_first_century (date : Date) (hlow : 2000 ≤ date.year)
    (hhigh : date.year < 2100) :
    (exactWdaySteps date.year date.month date.day).ofDay % 7 =
      (6 + ((date.dayNumber : Int) - 730485)) % 7 := by
  rw [ofDay_mod date _ rfl]
  have hbefore := daysBeforeMonth_common date.year date.month_pos date.month_le
  have hyears := daysBeforeYear_since hlow (by omega)
  have hday := date.day_pos
  have hmonth := date.month_pos
  have hleap : IsLeap date.year ↔ date.year % 4 = 0 := by
    unfold IsLeap
    omega
  have hdigits : (date.year : Int) % 100 = date.year - 2000 := by omega
  rw [hdigits]
  simp only [hleap] at hbefore
  apply weeks_emod (-52 * ((date.year : Int) - 2000))
  unfold Date.dayNumber
  split at hbefore <;> split <;> omega

/-- In the second it lacks the shift of the century that has gone by, and the
leap day that the year 2100 does not have. -/
theorem ofDay_second_century (date : Date) (hlow : 2100 ≤ date.year)
    (hhigh : date.year < 2200) :
    (exactWdaySteps date.year date.month date.day).ofDay % 7 =
      (6 + ((date.dayNumber : Int) - 730485) +
        if date.year = 2100 ∧ date.month ≤ 2 then 1 else 2) % 7 := by
  rw [ofDay_mod date _ rfl]
  have hbefore := daysBeforeMonth_common date.year date.month_pos date.month_le
  have hyears := daysBeforeYear_since (by omega) hhigh
  have hday := date.day_pos
  have hmonth := date.month_pos
  have hleap : IsLeap date.year ↔ date.year % 4 = 0 ∧ date.year ≠ 2100 := by
    unfold IsLeap
    omega
  have hdigits : (date.year : Int) % 100 = date.year - 2100 := by omega
  rw [hdigits]
  simp only [hleap] at hbefore
  apply weeks_emod (-52 * ((date.year : Int) - 2100) - 5218)
  unfold Date.dayNumber
  by_cases hcentury : date.year = 2100
  · split at hbefore <;> split <;> split <;> omega
  · rw [if_neg (by omega : ¬ (date.year = 2100 ∧ date.month ≤ 2))]
    split at hbefore <;> split <;> omega

theorem ofDay_lag (date : Date) (hlow : 2000 ≤ date.year) (hhigh : date.year < 2200) :
    (exactWdaySteps date.year date.month date.day).ofDay % 7 =
      (6 + ((date.dayNumber : Int) - 730485) + lag date) % 7 := by
  unfold lag
  split
  case isTrue hfirst =>
    rw [ofDay_first_century date hlow hfirst, Int.add_zero]
  case isFalse hsecond =>
    exact ofDay_second_century date (Nat.le_of_not_lt hsecond) hhigh

/-- The lag in terms of the day number: it grows on the first of January and on
the first of March 2100. -/
theorem lag_eq (date : Date) :
    lag date =
      if date.dayNumber < 767010 then 0 else if date.dayNumber < 767069 then 1 else 2 := by
  have hclosed := daysBeforeYear_eq 2100
  have hstart := date.daysBeforeYear_le_dayNumber
  have hend := date.dayNumber_lt
  unfold lag
  rcases Nat.lt_trichotomy date.year 2100 with hbefore | hcentury | hafter
  · have hmono := daysBeforeYear_mono (by omega : date.year + 1 ≤ 2100)
    have hnumber : date.dayNumber < 767010 := by omega
    rw [if_pos hbefore, if_pos hnumber]
  · have hsum : date.dayNumber =
        daysBeforeYear 2100 + daysBeforeMonth 2100 date.month + (date.day - 1) := by
      rw [Date.dayNumber, hcentury]
    have hmarch : daysBeforeMonth 2100 3 = 59 := rfl
    have hyear : ¬ date.year < 2100 := by omega
    have hnumber : ¬ date.dayNumber < 767010 := by omega
    rw [if_neg hyear, if_neg hnumber]
    by_cases hmonth : date.month ≤ 2
    · have hwithin := date.day_within
      have hmono := daysBeforeMonth_mono 2100 (Nat.le_add_left 1 date.month)
        (by omega : date.month + 1 ≤ 3)
      rw [hcentury] at hwithin
      have hnumber' : date.dayNumber < 767069 := by omega
      rw [if_pos ⟨hcentury, hmonth⟩, if_pos hnumber']
    · have hmono := daysBeforeMonth_mono 2100 (by omega : 1 ≤ 3)
        (by omega : 3 ≤ date.month)
      have hnumber' : ¬ date.dayNumber < 767069 := by omega
      have hspring : ¬ (date.year = 2100 ∧ date.month ≤ 2) := by omega
      rw [if_neg hspring, if_neg hnumber']
  · have hmono := daysBeforeYear_mono (by omega : 2101 ≤ date.year)
    have hclosed' := daysBeforeYear_eq 2101
    have hyear : ¬ date.year < 2100 := by omega
    have hspring : ¬ (date.year = 2100 ∧ date.month ≤ 2) := by omega
    have hnumber : ¬ date.dayNumber < 767010 := by omega
    have hnumber' : ¬ date.dayNumber < 767069 := by omega
    rw [if_neg hyear, if_neg hspring, if_neg hnumber, if_neg hnumber']

/-- How far the weekday of a day is off, by the days that have gone by since the
start of the year 2000. -/
def lagSince (days : Nat) : Nat :=
  if days < 36525 then 0 else if days < 36584 then 1 else 2

theorem lag_of_dayNumber {date : Date} {days : Nat} (h : date.dayNumber = 730485 + days) :
    lag date = lagSince days := by
  have hfirst : date.dayNumber < 767010 ↔ days < 36525 := by omega
  have hsecond : date.dayNumber < 767069 ↔ days < 36584 := by omega
  rw [lag_eq, lagSince]
  simp only [hfirst, hsecond]
  split
  · rfl
  · split <;> rfl

/-! ## What the function returns -/

/-- The weekday that {lit}`get_ftime` returns, by the number of the day. -/
theorem getFtime_wday {localTime : UInt32} (hset : localTime ≠ 0) :
    ∃ ft, getFtime localTime = some ft ∧
      ft.wday.toNat =
        (6 + localTime.toNat / 86400 + lagSince (localTime.toNat / 86400)) % 7 := by
  obtain ⟨ft, moment, hft, hshows, hseconds, hwday⟩ := getFtime_shows hset
  obtain ⟨hlow, hhigh⟩ := year_le_of_seconds hseconds
  refine ⟨ft, hft, ?_⟩
  have hmonth : 1 ≤ ft.month.toNat := by
    rw [hshows.month]
    exact moment.date.month_pos
  have hmonth' : ft.month.toNat ≤ 12 := by
    rw [hshows.month]
    exact moment.date.month_le
  have hday : ft.day.toNat ≤ 31 := by
    rw [hshows.day]
    exact Nat.le_trans moment.date.day_le (daysInMonth_le _ _)
  have hholds := wdaySteps_exact ft.year hmonth hmonth' hday
  rw [hshows.year, hshows.month, hshows.day] at hholds
  have hnumber : moment.date.dayNumber = 730485 + localTime.toNat / 86400 := by
    have hhour := moment.hour_lt
    have hminute := moment.minute_lt
    have hsecond := moment.second_lt
    rw [start2000_seconds] at hseconds
    unfold Moment.seconds at hseconds
    omega
  have hlag := ofDay_lag moment.date hlow (by omega)
  rw [lag_of_dayNumber hnumber, ← hholds.ofDay] at hlag
  have hseven : (7 : UInt8).toNat = 7 := rfl
  rw [hwday, UInt8.toNat_mod, hseven]
  omega

theorem lagSince_eq_zero_iff (days : Nat) : lagSince days = 0 ↔ days < 36525 := by
  unfold lagSince
  grind

theorem lagSince_le (days : Nat) : lagSince days ≤ 2 := by
  unfold lagSince
  split_ifs <;> omega

/-- The lag grows from one day to the next twice only. -/
theorem lagSince_succ_iff (days : Nat) :
    lagSince (days + 1) = lagSince days ↔ days ≠ 36524 ∧ days ≠ 36583 := by
  unfold lagSince
  grind

/-- The weekday is the one of the day count exactly before the year 2100; and two
days that follow each other carry weekdays that follow each other except across
the start of January and the start of March of that year. -/
theorem get_ftime_wday_iff (localTime : UInt32) (hset : localTime ≠ 0) :
    ∃ ft, getFtime localTime = some ft ∧
      (ft.wday.toNat = (6 + localTime.toNat / 86400) % 7 ↔
        localTime.toNat / 86400 < 36525) ∧
      ∀ ft', localTime.toNat + 86400 < 0x100000000 →
        getFtime (localTime + 86400) = some ft' →
          (ft'.wday.toNat = (ft.wday.toNat + 1) % 7 ↔
            localTime.toNat / 86400 ≠ 36524 ∧ localTime.toNat / 86400 ≠ 36583) := by
  obtain ⟨ft, hft, hwday⟩ := getFtime_wday hset
  have hle := lagSince_le (localTime.toNat / 86400)
  refine ⟨ft, hft, ?_, ?_⟩
  · rw [hwday, ← lagSince_eq_zero_iff]
    omega
  · intro ft' hfit hft'
    have hnext : (localTime + 86400).toNat = localTime.toNat + 86400 := by
      have hday : (86400 : UInt32).toNat = 86400 := rfl
      rw [UInt32.toNat_add, hday, Nat.mod_eq_of_lt hfit]
    have hset' : localTime + 86400 ≠ 0 := by
      intro hzero
      rw [hzero] at hnext
      have hnone : (0 : UInt32).toNat = 0 := rfl
      omega
    obtain ⟨ft'', hft'', hwday'⟩ := getFtime_wday hset'
    rw [hft'] at hft''
    obtain rfl := Option.some.inj hft''
    have hdays : (localTime.toNat + 86400) / 86400 = localTime.toNat / 86400 + 1 := by
      omega
    rw [hnext, hdays] at hwday'
    have hle' := lagSince_le (localTime.toNat / 86400 + 1)
    rw [← lagSince_succ_iff, hwday, hwday']
    omega

/-- The first of January 2100 is a Friday, the code makes it a Saturday. -/
theorem get_ftime_wday_century :
    ((getFtime 3155760000).map fun ft => (ft.year.toNat, ft.month.toNat, ft.day.toNat,
        ft.wday.toNat)) = some (2100, 1, 1, 6) ∧
      (6 + (3155760000 : UInt32).toNat / 86400) % 7 = 5 := by
  decide

/-- A leap day of the first century. -/
theorem get_ftime_wday_leap_day :
    ∃ ft, getFtime 2655936000 = some ft ∧
      (ft.wday.toNat = (6 + (2655936000 : UInt32).toNat / 86400) % 7 ↔
        (2655936000 : UInt32).toNat / 86400 < 36525) := by
  obtain ⟨ft, hft, hwday, -⟩ := get_ftime_wday_iff 2655936000 (by decide)
  exact ⟨ft, hft, hwday⟩

end Time
