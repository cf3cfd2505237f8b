import Mathlib.Tactic.Common
import TuyaMiniSwitch.Library.Calendar

/-!
# Application - Local time as a date

The closed formula of {lit}`get_ftime` in {lit}`app_time.c`.  The function first
turns the seconds since 2000-01-01 into a day count that starts on a first of
March, takes centuries, years and months off it, and then finds the weekday from
the date again.

The same formula over the integers, where nothing wraps and nothing is cut off,
is the middle layer: it is right for every count of seconds, and the variables of
the code hold its values for every count of 32 bits.

Main results:

- Theorem {lit}`exactSteps_date`: the formula over the integers finds the date.
- Theorem {lit}`ftimeSteps_exact`: no variable of the code loses a bit of it.
- Theorem {lit}`get_ftime_calendar`: what {lit}`get_ftime` returns is the moment
  that lies {lit}`local_time` seconds after the start of the year 2000.
-/

namespace Time

open Calendar

/-! ## The code -/

/-- {lit}`ftime_t`. -/
structure Ftime where
  year : UInt16
  month : UInt8
  day : UInt8
  wday : UInt8
  hour : UInt8
  minute : UInt8
  second : UInt8
  deriving DecidableEq

/-- The values that the variables of {lit}`get_ftime` take one after the other
while it finds the date. -/
structure FtimeSteps where
  ace : UInt32
  b : UInt8
  aceOfCentury : UInt32
  d : UInt8
  aceOfYear : UInt32
  m : UInt8
  day : UInt8
  month : UInt8
  year : UInt16
  hour : UInt8
  minute : UInt8
  second : UInt8
  deriving DecidableEq

/-- The first part of {lit}`get_ftime`.  A product with one of the narrow
variables is an {lit}`int`, and only what is assigned takes the variable's width;
{lit}`JD0` is the text {lit}`2451911-366`. -/
def ftimeSteps (counter : UInt32) : FtimeSteps :=
  let ace : UInt32 := counter / 86400 + 32044 + 2451911 - 366
  let b : UInt8 := ((4 * ace + 3) / 146097).toUInt8
  let aceOfCentury : UInt32 := ace - UInt32.ofNat (146097 * b.toNat / 4)
  let d : UInt8 := ((4 * aceOfCentury + 3) / 1461).toUInt8
  let aceOfYear : UInt32 := aceOfCentury - UInt32.ofNat (1461 * d.toNat / 4)
  let m : UInt8 := ((5 * aceOfYear + 2) / 153).toUInt8
  { ace, b, aceOfCentury, d, aceOfYear, m
    day := (aceOfYear - UInt32.ofNat ((153 * m.toNat + 2) / 5) + 1).toUInt8
    month := UInt8.ofInt ((m.toNat : Int) + 3 - 12 * (m.toNat / 10 : Nat))
    year := UInt16.ofInt
      (100 * (b.toNat : Int) + d.toNat - 4800 + (m.toNat / 10 : Nat))
    hour := ((counter / 3600) % 24).toUInt8
    minute := ((counter / 60) % 60).toUInt8
    second := (counter % 60).toUInt8 }

/-- {lit}`m_idx`: what the months add to the weekday. -/
def mIdx : List UInt8 :=
  [6, 2, 2, 5, 0, 3, 5, 1, 4, 6, 2, 4]

/-- The values that {lit}`y` and {lit}`ftime.wday` take before the last
assignment reduces the sum. -/
structure WdaySteps where
  y : UInt16
  ofYear : UInt8
  ofMonth : UInt8
  ofLeap : UInt8
  ofDay : UInt8
  deriving DecidableEq

/-- The second part of {lit}`get_ftime`, which reads the date that the first part
has stored. -/
def wdaySteps (year : UInt16) (month day : UInt8) : WdaySteps :=
  let y : UInt16 := year % 100
  let ofYear : UInt8 := (y / 12 + y % 12 + (y % 12) / 4).toUInt8
  let ofMonth : UInt8 := ofYear + mIdx.getD (month.toNat - 1) 0
  let ofLeap : UInt8 :=
    if y % 4 = 0 ∧ (month = 1 ∨ month = 2) then ofMonth - 1 else ofMonth
  { y, ofYear, ofMonth, ofLeap, ofDay := ofLeap + day }

/-- {lit}`get_ftime`. -/
def getFtime (localTime : UInt32) : Option Ftime :=
  if localTime = 0 then
    none
  else
    let s := ftimeSteps localTime
    let w := wdaySteps s.year s.month s.day
    some
      { year := s.year, month := s.month, day := s.day, wday := w.ofDay % 7
        hour := s.hour, minute := s.minute, second := s.second }

/-! ## The formula over the integers -/

/-- The values of {lit}`FtimeSteps` before any variable is too narrow for them. -/
structure ExactSteps where
  ace : Int
  b : Int
  aceOfCentury : Int
  d : Int
  aceOfYear : Int
  m : Int
  day : Int
  month : Int
  year : Int
  hour : Int
  minute : Int
  second : Int

/-- The formula of {lit}`get_ftime` over the integers. -/
def exactSteps (counter : Int) : ExactSteps :=
  let ace := counter / 86400 + 32044 + 2451911 - 366
  let b := (4 * ace + 3) / 146097
  let aceOfCentury := ace - 146097 * b / 4
  let d := (4 * aceOfCentury + 3) / 1461
  let aceOfYear := aceOfCentury - 1461 * d / 4
  let m := (5 * aceOfYear + 2) / 153
  { ace, b, aceOfCentury, d, aceOfYear, m
    day := aceOfYear - (153 * m + 2) / 5 + 1
    month := m + 3 - 12 * (m / 10)
    year := 100 * b + d - 4800 + m / 10
    hour := counter / 3600 % 24
    minute := counter / 60 % 60
    second := counter % 60 }

/-- How the day count splits into centuries, years and months that begin in
March.  Only the last year of a century of 36525 days, and only the last year of
four, has a day 365. -/
structure Split (s : ExactSteps) : Prop where
  ace : s.ace = 146097 * s.b / 4 + s.aceOfCentury
  aceOfCentury : s.aceOfCentury = 1461 * s.d / 4 + s.aceOfYear
  day : s.aceOfYear = (153 * s.m + 2) / 5 + (s.day - 1)
  aceOfCentury_nonneg : 0 ≤ s.aceOfCentury
  aceOfCentury_le : s.aceOfCentury ≤ 36524
  fourth_century : s.aceOfCentury = 36524 → s.b % 4 = 3
  d_nonneg : 0 ≤ s.d
  d_le : s.d ≤ 99
  aceOfYear_nonneg : 0 ≤ s.aceOfYear
  aceOfYear_le : s.aceOfYear ≤ 365
  fourth_year : s.aceOfYear = 365 → s.d % 4 = 3
  m_nonneg : 0 ≤ s.m
  m_le : s.m ≤ 11
  day_pos : 1 ≤ s.day
  day_le : s.day ≤ 31
  within_month : s.aceOfYear < (153 * (s.m + 1) + 2) / 5
  month : s.month = s.m + 3 - 12 * (s.m / 10)
  year : s.year = 100 * s.b + s.d - 4800 + s.m / 10

/-- What is left after four times a count has been divided by a period. -/
theorem four_mul_rest {x p q rest : Int} (hq : q = (4 * x + 3) / p)
    (hrest : rest = x - p * q / 4) :
    4 * rest = (4 * x + 3) % p + p * q % 4 - 3 := by
  have hperiod := Int.mul_ediv_add_emod (4 * x + 3) p
  have hfour := Int.mul_ediv_add_emod (p * q) 4
  rw [← hq] at hperiod
  omega

/-- Taking the centuries off leaves a day of a century of 36524 or 36525 days. -/
theorem century_range {ace b rest : Int} (hb : b = (4 * ace + 3) / 146097)
    (hrest : rest = ace - 146097 * b / 4) :
    0 ≤ rest ∧ rest ≤ 36524 ∧ (rest = 36524 → b % 4 = 3) := by
  have hfour := four_mul_rest hb hrest
  have hlow := Int.emod_nonneg (4 * ace + 3) (by decide : (146097 : Int) ≠ 0)
  have hhigh := Int.emod_lt_of_pos (4 * ace + 3) (by decide : (0 : Int) < 146097)
  have hphase : 146097 * b % 4 = b % 4 := by omega
  rw [hphase] at hfour
  generalize (4 * ace + 3) % 146097 = r at hfour hlow hhigh
  clear hb hrest hphase
  refine ⟨?_, ?_, ?_⟩
  · omega
  · omega
  · intro hlast
    omega

/-- Taking the years off leaves a day of a year of 365 or 366 days. -/
theorem year_range {days d rest : Int} (hlow : 0 ≤ days) (hhigh : days ≤ 36524)
    (hd : d = (4 * days + 3) / 1461) (hrest : rest = days - 1461 * d / 4) :
    0 ≤ d ∧ d ≤ 99 ∧ 0 ≤ rest ∧ rest ≤ 365 ∧ (rest = 365 → d % 4 = 3) := by
  have hfour := four_mul_rest hd hrest
  refine ⟨?_, ?_, ?_, ?_, ?_⟩
  · omega
  · omega
  · omega
  · omega
  · intro hlast
    omega

/-- Taking the months off leaves a day of a month. -/
theorem month_range {days m rest : Int} (hlow : 0 ≤ days) (hhigh : days ≤ 365)
    (hm : m = (5 * days + 2) / 153) (hrest : rest = days - (153 * m + 2) / 5 + 1) :
    0 ≤ m ∧ m ≤ 11 ∧ 1 ≤ rest ∧ rest ≤ 31 ∧
      days < (153 * (m + 1) + 2) / 5 := by
  refine ⟨?_, ?_, ?_, ?_, ?_⟩ <;> omega

theorem exactSteps_split (counter : Int) : Split (exactSteps counter) := by
  generalize hs : exactSteps counter = s
  have hcentury : s.aceOfCentury = s.ace - 146097 * s.b / 4 := by rw [← hs]; rfl
  have hyear : s.aceOfYear = s.aceOfCentury - 1461 * s.d / 4 := by rw [← hs]; rfl
  have hday : s.day = s.aceOfYear - (153 * s.m + 2) / 5 + 1 := by rw [← hs]; rfl
  obtain ⟨hlow, hhigh, hfourth⟩ := century_range (by rw [← hs]; rfl) hcentury
  obtain ⟨hd, hd', hlow', hhigh', hfourth'⟩ :=
    year_range hlow hhigh (by rw [← hs]; rfl) hyear
  obtain ⟨hm, hm', hpos, hle, hlt⟩ := month_range hlow' hhigh' (by rw [← hs]; rfl) hday
  exact
    { ace := by omega
      aceOfCentury := by omega
      day := by omega
      aceOfCentury_nonneg := hlow
      aceOfCentury_le := hhigh
      fourth_century := hfourth
      d_nonneg := hd
      d_le := hd'
      aceOfYear_nonneg := hlow'
      aceOfYear_le := hhigh'
      fourth_year := hfourth'
      m_nonneg := hm
      m_le := hm'
      day_pos := hpos
      day_le := hle
      within_month := hlt
      month := by rw [← hs]; rfl
      year := by rw [← hs]; rfl }

/-! ## The date -/

/-- From the first of March on the months repeat a pattern of 153 days in five. -/
theorem daysBeforeMonth_march (year : Nat) {m : Nat} (hm : m ≤ 9) :
    daysBeforeMonth year (m + 3) + 306 = daysInYear year + (153 * m + 2) / 5 := by
  unfold daysInYear
  rcases m with _ | _ | _ | _ | _ | _ | _ | _ | _ | _ | m
  case succ.succ.succ.succ.succ.succ.succ.succ.succ.succ => omega
  all_goals
    simp only [daysBeforeMonth, daysInMonth]
    split <;> rfl

theorem daysInMonth_march (year : Nat) {m : Nat} (hm : m ≤ 9) :
    daysInMonth year (m + 3) + (153 * m + 2) / 5 = (153 * (m + 1) + 2) / 5 := by
  rcases m with _ | _ | _ | _ | _ | _ | _ | _ | _ | _ | m
  case succ.succ.succ.succ.succ.succ.succ.succ.succ.succ => omega
  all_goals rfl

namespace Split

variable {s : ExactSteps}

/-- The year that begins in the March before the day, where the formula counts
from the year -4800. -/
theorem exists_marchYear (h : Split s) (hb : 48 ≤ s.b) :
    ∃ year : Nat, (year : Int) = 100 * s.b + s.d - 4800 := by
  have hd := h.d_nonneg
  exact ⟨(100 * s.b + s.d - 4800).toNat, Int.toNat_of_nonneg (by omega)⟩

/-- The January after that March lies 306 days after it. -/
theorem daysBeforeYear_next (h : Split s) {year : Nat}
    (hyear : (year : Int) = 100 * s.b + s.d - 4800) :
    (daysBeforeYear (year + 1) : Int) = s.ace - s.aceOfYear - 1752798 := by
  have hclosed := daysBeforeYear_eq (year + 1)
  have hace := h.ace
  have hcentury := h.aceOfCentury
  have hd := h.d_nonneg
  have hd' := h.d_le
  have hfour : ((year + 1 + 3) / 4 : Nat) = 25 * s.b - 1199 + s.d / 4 := by omega
  have hhundred : ((year + 1 + 99) / 100 : Nat) = s.b - 47 := by omega
  have hfourHundred : ((year + 1 + 399) / 400 : Nat) = s.b / 4 - 11 := by omega
  have hcenturies : 146097 * s.b / 4 = 36524 * s.b + s.b / 4 := by omega
  have hyears : 1461 * s.d / 4 = 365 * s.d + s.d / 4 := by omega
  omega

/-- A day 365 only ends a year before a leap year. -/
theorem isLeap_next (h : Split s) {year : Nat}
    (hyear : (year : Int) = 100 * s.b + s.d - 4800) (hlast : s.aceOfYear = 365) :
    IsLeap (year + 1) := by
  have hd' := h.d_le
  have hfour := h.fourth_year hlast
  have hcentury := h.aceOfCentury
  have hd := h.d_nonneg
  constructor
  · omega
  · by_cases hninety : s.d = 99
    · right
      have hb := h.fourth_century (by omega)
      omega
    · left
      omega

/-- From March to December the formula names a date of the year of that March. -/
theorem exists_date_march (h : Split s) (hb : 48 ≤ s.b) (hm : s.m ≤ 9) :
    ∃ date : Date, (date.year : Int) = s.year ∧ (date.month : Int) = s.month ∧
      (date.day : Int) = s.day ∧ (date.dayNumber : Int) = s.ace - 1753104 := by
  obtain ⟨year, hyear⟩ := h.exists_marchYear hb
  obtain ⟨m, hm'⟩ := Int.eq_ofNat_of_zero_le h.m_nonneg
  have hpos := h.day_pos
  obtain ⟨day, hday⟩ := Int.eq_ofNat_of_zero_le (by omega : 0 ≤ s.day)
  have hnine : m ≤ 9 := by omega
  have hwithin : s.aceOfYear < ((153 * (m + 1) + 2) / 5 : Nat) := by
    have := h.within_month
    omega
  have hsplit : s.aceOfYear = ((153 * m + 2) / 5 : Nat) + (s.day - 1) := by
    have := h.day
    omega
  have hlength := daysInMonth_march year hnine
  have hbefore := daysBeforeMonth_march year hnine
  have hnext := h.daysBeforeYear_next hyear
  have hsucc : daysBeforeYear (year + 1) = daysBeforeYear year + daysInYear year := rfl
  refine ⟨⟨year, m + 3, day, by omega, by omega, by omega, by omega⟩, ?_, ?_, ?_, ?_⟩
  · have := h.year
    simp only
    omega
  · have := h.month
    simp only
    omega
  · exact hday.symm
  · simp only [Date.dayNumber]
    omega

/-- In January and February it names a date of the year after. -/
theorem exists_date_january (h : Split s) (hb : 48 ≤ s.b) (hm : 10 ≤ s.m) :
    ∃ date : Date, (date.year : Int) = s.year ∧ (date.month : Int) = s.month ∧
      (date.day : Int) = s.day ∧ (date.dayNumber : Int) = s.ace - 1753104 := by
  obtain ⟨year, hyear⟩ := h.exists_marchYear hb
  have hpos := h.day_pos
  obtain ⟨day, hday⟩ := Int.eq_ofNat_of_zero_le (by omega : 0 ≤ s.day)
  have hwithin := h.within_month
  have hsplit := h.day
  have hle := h.aceOfYear_le
  have hnext := h.daysBeforeYear_next hyear
  have hyear' := h.year
  have hmonth := h.month
  have hm' := h.m_le
  rcases (by omega : s.m = 10 ∨ s.m = 11) with hjanuary | hfebruary
  · rw [hjanuary] at hwithin hsplit hyear' hmonth
    have hlength : daysInMonth (year + 1) 1 = 31 := rfl
    have hbefore : daysBeforeMonth (year + 1) 1 = 0 := rfl
    refine ⟨⟨year + 1, 1, day, by omega, by omega, by omega, by omega⟩, ?_, ?_, ?_, ?_⟩
    · simp only
      omega
    · exact hmonth.symm
    · exact hday.symm
    · simp only [Date.dayNumber]
      omega
  · rw [hfebruary] at hwithin hsplit hyear' hmonth
    have hlength : day ≤ daysInMonth (year + 1) 2 := by
      simp only [daysInMonth]
      split
      case isTrue => omega
      case isFalse hleap =>
        by_contra hlong
        exact hleap (h.isLeap_next hyear (by omega))
    have hbefore : daysBeforeMonth (year + 1) 2 = 31 := rfl
    refine ⟨⟨year + 1, 2, day, by omega, by omega, by omega, hlength⟩, ?_, ?_, ?_, ?_⟩
    · simp only
      omega
    · exact hmonth.symm
    · exact hday.symm
    · simp only [Date.dayNumber]
      omega

end Split

/-- The first second of the year 2000, from which {lit}`local_time` counts. -/
def start2000 : Moment :=
  .midnight (.newYear 2000)

theorem start2000_seconds : start2000.seconds = 86400 * 730485 := by
  have hclosed := daysBeforeYear_eq 2000
  have hjanuary : daysBeforeMonth 2000 1 = 0 := rfl
  simp only [Moment.seconds, Date.dayNumber, start2000, Moment.midnight, Date.newYear]
  omega

/-- The formula over the integers finds the date and the time of day, for every
count of seconds. -/
theorem exactSteps_moment (counter : Nat) :
    ∃ moment : Moment, (moment.date.year : Int) = (exactSteps counter).year ∧
      (moment.date.month : Int) = (exactSteps counter).month ∧
      (moment.date.day : Int) = (exactSteps counter).day ∧
      (moment.hour : Int) = (exactSteps counter).hour ∧
      (moment.minute : Int) = (exactSteps counter).minute ∧
      (moment.second : Int) = (exactSteps counter).second ∧
      moment.seconds = start2000.seconds + counter := by
  have hsplit := exactSteps_split counter
  have hace : (exactSteps counter).ace = (counter : Int) / 86400 + 32044 + 2451911 - 366 := rfl
  have hb : 48 ≤ (exactSteps counter).b := by
    have := hsplit.ace
    have := hsplit.aceOfCentury_le
    omega
  have hdate : ∃ date : Date, (date.year : Int) = (exactSteps counter).year ∧
      (date.month : Int) = (exactSteps counter).month ∧
      (date.day : Int) = (exactSteps counter).day ∧
      (date.dayNumber : Int) = (exactSteps counter).ace - 1753104 := by
    by_cases hm : (exactSteps counter).m ≤ 9
    · exact hsplit.exists_date_march hb hm
    · exact hsplit.exists_date_january hb (by omega)
  obtain ⟨date, hyear, hmonth, hday, hnumber⟩ := hdate
  have hhour : counter / 3600 % 24 < 24 := Nat.mod_lt _ (by omega)
  have hminute : counter / 60 % 60 < 60 := Nat.mod_lt _ (by omega)
  have hsecond : counter % 60 < 60 := Nat.mod_lt _ (by omega)
  refine ⟨⟨date, _, _, _, hhour, hminute, hsecond⟩, hyear, hmonth, hday, ?_, ?_, ?_, ?_⟩
  · have hdef : (exactSteps counter).hour = (counter : Int) / 3600 % 24 := rfl
    simp only
    omega
  · have hdef : (exactSteps counter).minute = (counter : Int) / 60 % 60 := rfl
    simp only
    omega
  · exact Int.natCast_emod _ _
  · rw [start2000_seconds]
    simp only [Moment.seconds]
    omega

/-! ## The variables of the code -/

/-- A quotient that fits the variable is stored whole. -/
theorem toNat_quotient {x k a p : UInt32} (hwrap : k.toNat * x.toNat + a.toNat < 0x100000000)
    (hfit : (k.toNat * x.toNat + a.toNat) / p.toNat < 256) :
    ((k * x + a) / p).toUInt8.toNat = (k.toNat * x.toNat + a.toNat) / p.toNat := by
  have hmul : k.toNat * x.toNat < 0x100000000 := by omega
  rw [UInt32.toNat_toUInt8, UInt32.toNat_div, UInt32.toNat_add, UInt32.toNat_mul,
    Nat.mod_eq_of_lt hmul, Nat.mod_eq_of_lt hwrap, Nat.mod_eq_of_lt hfit]

/-- A difference that is not negative is found whole. -/
theorem toNat_rest {x : UInt32} {n : Nat} (hle : n ≤ x.toNat) :
    (x - UInt32.ofNat n).toNat = x.toNat - n := by
  have hx := x.toNat_lt
  rw [UInt32.toNat_sub, UInt32.toNat_ofNat']
  omega

theorem toNat_ofInt_eight {x : Int} (hlow : 0 ≤ x) (hhigh : x < 256) :
    ((UInt8.ofInt x).toNat : Int) = x := by
  unfold UInt8.ofInt
  rw [UInt8.toNat_ofNat']
  omega

theorem toNat_ofInt_sixteen {x : Int} (hlow : 0 ≤ x) (hhigh : x < 65536) :
    ((UInt16.ofInt x).toNat : Int) = x := by
  unfold UInt16.ofInt
  rw [UInt16.toNat_ofNat']
  omega

/-- The variables of the code hold the values of the formula. -/
structure Holds (s : FtimeSteps) (e : ExactSteps) : Prop where
  ace : (s.ace.toNat : Int) = e.ace
  b : (s.b.toNat : Int) = e.b
  aceOfCentury : (s.aceOfCentury.toNat : Int) = e.aceOfCentury
  d : (s.d.toNat : Int) = e.d
  aceOfYear : (s.aceOfYear.toNat : Int) = e.aceOfYear
  m : (s.m.toNat : Int) = e.m
  day : (s.day.toNat : Int) = e.day
  month : (s.month.toNat : Int) = e.month
  year : (s.year.toNat : Int) = e.year
  hour : (s.hour.toNat : Int) = e.hour
  minute : (s.minute.toNat : Int) = e.minute
  second : (s.second.toNat : Int) = e.second

section Widths

variable (counter : UInt32)

theorem ace_exact :
    ((ftimeSteps counter).ace.toNat : Int) = (exactSteps counter.toNat).ace := by
  have hcounter := counter.toNat_lt
  have hdef : (ftimeSteps counter).ace = counter / 86400 + 32044 + 2451911 - 366 := rfl
  have hexact : (exactSteps counter.toNat).ace =
    (counter.toNat : Int) / 86400 + 32044 + 2451911 - 366 := rfl
  rw [hdef, hexact]
  simp only [UInt32.toNat_sub, UInt32.toNat_add, UInt32.toNat_div, UInt32.reduceToNat]
  omega

/-- The day count stays far below what a product of {lit}`get_ftime` needs to wrap. -/
theorem ace_range :
    2483589 ≤ (exactSteps counter.toNat).ace ∧ (exactSteps counter.toNat).ace ≤ 2533299 := by
  have hcounter := counter.toNat_lt
  have hexact : (exactSteps counter.toNat).ace =
    (counter.toNat : Int) / 86400 + 32044 + 2451911 - 366 := rfl
  omega

theorem b_exact : ((ftimeSteps counter).b.toNat : Int) = (exactSteps counter.toNat).b := by
  have hace := ace_exact counter
  have hrange := ace_range counter
  have hdef : (ftimeSteps counter).b =
    ((4 * (ftimeSteps counter).ace + 3) / 146097).toUInt8 := rfl
  have hexact : (exactSteps counter.toNat).b =
    (4 * (exactSteps counter.toNat).ace + 3) / 146097 := rfl
  rw [hdef, toNat_quotient] <;> simp only [UInt32.reduceToNat] <;> omega

theorem aceOfCentury_exact : ((ftimeSteps counter).aceOfCentury.toNat : Int) =
    (exactSteps counter.toNat).aceOfCentury := by
  have hace := ace_exact counter
  have hb := b_exact counter
  have hsplit := (exactSteps_split counter.toNat).ace
  have hnonneg := (exactSteps_split counter.toNat).aceOfCentury_nonneg
  have hdef : (ftimeSteps counter).aceOfCentury = (ftimeSteps counter).ace -
    UInt32.ofNat (146097 * (ftimeSteps counter).b.toNat / 4) := rfl
  rw [hdef, toNat_rest] <;> omega

theorem d_exact : ((ftimeSteps counter).d.toNat : Int) = (exactSteps counter.toNat).d := by
  have hcentury := aceOfCentury_exact counter
  have hle := (exactSteps_split counter.toNat).aceOfCentury_le
  have hdef : (ftimeSteps counter).d =
    ((4 * (ftimeSteps counter).aceOfCentury + 3) / 1461).toUInt8 := rfl
  have hexact : (exactSteps counter.toNat).d =
    (4 * (exactSteps counter.toNat).aceOfCentury + 3) / 1461 := rfl
  rw [hdef, toNat_quotient] <;> simp only [UInt32.reduceToNat] <;> omega

theorem aceOfYear_exact : ((ftimeSteps counter).aceOfYear.toNat : Int) =
    (exactSteps counter.toNat).aceOfYear := by
  have hcentury := aceOfCentury_exact counter
  have hd := d_exact counter
  have hsplit := (exactSteps_split counter.toNat).aceOfCentury
  have hnonneg := (exactSteps_split counter.toNat).aceOfYear_nonneg
  have hdef : (ftimeSteps counter).aceOfYear = (ftimeSteps counter).aceOfCentury -
    UInt32.ofNat (1461 * (ftimeSteps counter).d.toNat / 4) := rfl
  rw [hdef, toNat_rest] <;> omega

theorem m_exact : ((ftimeSteps counter).m.toNat : Int) = (exactSteps counter.toNat).m := by
  have hyear := aceOfYear_exact counter
  have hle := (exactSteps_split counter.toNat).aceOfYear_le
  have hdef : (ftimeSteps counter).m =
    ((5 * (ftimeSteps counter).aceOfYear + 2) / 153).toUInt8 := rfl
  have hexact : (exactSteps counter.toNat).m =
    (5 * (exactSteps counter.toNat).aceOfYear + 2) / 153 := rfl
  rw [hdef, toNat_quotient] <;> simp only [UInt32.reduceToNat] <;> omega

theorem day_exact :
    ((ftimeSteps counter).day.toNat : Int) = (exactSteps counter.toNat).day := by
  have hyear := aceOfYear_exact counter
  have hm := m_exact counter
  have hsplit := (exactSteps_split counter.toNat).day
  have hpos := (exactSteps_split counter.toNat).day_pos
  have hle := (exactSteps_split counter.toNat).day_le
  have hmonths : (((153 * (ftimeSteps counter).m.toNat + 2) / 5 : Nat) : Int) =
      (153 * (exactSteps counter.toNat).m + 2) / 5 := by
    omega
  have hdef : (ftimeSteps counter).day = ((ftimeSteps counter).aceOfYear -
    UInt32.ofNat ((153 * (ftimeSteps counter).m.toNat + 2) / 5) + 1).toUInt8 := rfl
  rw [hdef, UInt32.toNat_toUInt8, UInt32.toNat_add, toNat_rest (by omega)]
  simp only [UInt32.reduceToNat]
  omega

theorem month_exact :
    ((ftimeSteps counter).month.toNat : Int) = (exactSteps counter.toNat).month := by
  have hm := m_exact counter
  have hlow := (exactSteps_split counter.toNat).m_nonneg
  have hhigh := (exactSteps_split counter.toNat).m_le
  have hexact := (exactSteps_split counter.toNat).month
  have hdef : (ftimeSteps counter).month = UInt8.ofInt
    (((ftimeSteps counter).m.toNat : Int) + 3 -
      12 * ((ftimeSteps counter).m.toNat / 10 : Nat)) := rfl
  rw [hdef, toNat_ofInt_eight] <;> omega

theorem year_bounds :
    1900 ≤ (exactSteps counter.toNat).year ∧ (exactSteps counter.toNat).year ≤ 2200 := by
  have hsplit := exactSteps_split counter.toNat
  have hrange := ace_range counter
  have hb : 67 ≤ (exactSteps counter.toNat).b ∧ (exactSteps counter.toNat).b ≤ 69 := by
    have hace := hsplit.ace
    have hlow := hsplit.aceOfCentury_nonneg
    have hhigh := hsplit.aceOfCentury_le
    omega
  have hcarry : 0 ≤ (exactSteps counter.toNat).m / 10 ∧
      (exactSteps counter.toNat).m / 10 ≤ 1 := by
    have hlow := hsplit.m_nonneg
    have hhigh := hsplit.m_le
    omega
  have hlow := hsplit.d_nonneg
  have hhigh := hsplit.d_le
  have hexact := hsplit.year
  omega

theorem year_exact :
    ((ftimeSteps counter).year.toNat : Int) = (exactSteps counter.toNat).year := by
  have hrange := year_bounds counter
  have hcarry : (((ftimeSteps counter).m.toNat / 10 : Nat) : Int) =
      (exactSteps counter.toNat).m / 10 := by
    rw [← m_exact counter]
    exact Int.natCast_ediv _ 10
  have hdef : (ftimeSteps counter).year = UInt16.ofInt
    (100 * ((ftimeSteps counter).b.toNat : Int) + (ftimeSteps counter).d.toNat - 4800 +
      ((ftimeSteps counter).m.toNat / 10 : Nat)) := rfl
  rw [hdef, b_exact, d_exact, hcarry, ← (exactSteps_split counter.toNat).year]
  apply toNat_ofInt_sixteen
  · omega
  · omega

theorem hour_exact :
    ((ftimeSteps counter).hour.toNat : Int) = (exactSteps counter.toNat).hour := by
  have hdef : (ftimeSteps counter).hour = ((counter / 3600) % 24).toUInt8 := rfl
  have hexact : (exactSteps counter.toNat).hour = (counter.toNat : Int) / 3600 % 24 := rfl
  rw [hdef, hexact, UInt32.toNat_toUInt8, UInt32.toNat_mod, UInt32.toNat_div]
  simp only [UInt32.reduceToNat]
  omega

theorem minute_exact :
    ((ftimeSteps counter).minute.toNat : Int) = (exactSteps counter.toNat).minute := by
  have hdef : (ftimeSteps counter).minute = ((counter / 60) % 60).toUInt8 := rfl
  have hexact : (exactSteps counter.toNat).minute = (counter.toNat : Int) / 60 % 60 := rfl
  rw [hdef, hexact, UInt32.toNat_toUInt8, UInt32.toNat_mod, UInt32.toNat_div]
  simp only [UInt32.reduceToNat]
  omega

theorem second_exact :
    ((ftimeSteps counter).second.toNat : Int) = (exactSteps counter.toNat).second := by
  have hdef : (ftimeSteps counter).second = (counter % 60).toUInt8 := rfl
  have hexact : (exactSteps counter.toNat).second = (counter.toNat : Int) % 60 := rfl
  rw [hdef, hexact, UInt32.toNat_toUInt8, UInt32.toNat_mod]
  simp only [UInt32.reduceToNat]
  omega

/-- No variable of the code loses a bit of the formula. -/
theorem ftimeSteps_exact : Holds (ftimeSteps counter) (exactSteps counter.toNat) where
  ace := ace_exact counter
  b := b_exact counter
  aceOfCentury := aceOfCentury_exact counter
  d := d_exact counter
  aceOfYear := aceOfYear_exact counter
  m := m_exact counter
  day := day_exact counter
  month := month_exact counter
  year := year_exact counter
  hour := hour_exact counter
  minute := minute_exact counter
  second := second_exact counter

end Widths

/-! ## What the function returns -/

/-- The record shows a moment. -/
structure Ftime.Shows (ft : Ftime) (moment : Moment) : Prop where
  year : ft.year.toNat = moment.date.year
  month : ft.month.toNat = moment.date.month
  day : ft.day.toNat = moment.date.day
  hour : ft.hour.toNat = moment.hour
  minute : ft.minute.toNat = moment.minute
  second : ft.second.toNat = moment.second

theorem getFtime_eq_some {localTime : UInt32} (hset : localTime ≠ 0) :
    ∃ ft, getFtime localTime = some ft ∧ ft.year = (ftimeSteps localTime).year ∧
      ft.month = (ftimeSteps localTime).month ∧ ft.day = (ftimeSteps localTime).day ∧
      ft.hour = (ftimeSteps localTime).hour ∧ ft.minute = (ftimeSteps localTime).minute ∧
      ft.second = (ftimeSteps localTime).second ∧
      ft.wday = (wdaySteps ft.year ft.month ft.day).ofDay % 7 := by
  unfold getFtime
  rw [if_neg hset]
  exact ⟨_, rfl, rfl, rfl, rfl, rfl, rfl, rfl, rfl⟩

/-- Spec of {lit}`get_ftime`: the date and the time of day that it returns. -/
theorem getFtime_shows {localTime : UInt32} (hset : localTime ≠ 0) :
    ∃ (ft : Ftime) (moment : Moment), getFtime localTime = some ft ∧ ft.Shows moment ∧
      moment.seconds = start2000.seconds + localTime.toNat ∧
      ft.wday = (wdaySteps ft.year ft.month ft.day).ofDay % 7 := by
  obtain ⟨ft, hft, hyear, hmonth, hday, hhour, hminute, hsecond, hwday⟩ :=
    getFtime_eq_some hset
  obtain ⟨moment, hyear', hmonth', hday', hhour', hminute', hsecond', hseconds⟩ :=
    exactSteps_moment localTime.toNat
  have hholds := ftimeSteps_exact localTime
  refine ⟨ft, moment, hft, ?_, hseconds, hwday⟩
  exact
    { year := by
        rw [hyear]
        exact Int.ofNat.inj (hholds.year.trans hyear'.symm)
      month := by
        rw [hmonth]
        exact Int.ofNat.inj (hholds.month.trans hmonth'.symm)
      day := by
        rw [hday]
        exact Int.ofNat.inj (hholds.day.trans hday'.symm)
      hour := by
        rw [hhour]
        exact Int.ofNat.inj (hholds.hour.trans hhour'.symm)
      minute := by
        rw [hminute]
        exact Int.ofNat.inj (hholds.minute.trans hminute'.symm)
      second := by
        rw [hsecond]
        exact Int.ofNat.inj (hholds.second.trans hsecond'.symm) }

/-- The counter of 32 bits runs out in the year 2136. -/
theorem year_le_of_seconds {moment : Moment} {localTime : UInt32}
    (hseconds : moment.seconds = start2000.seconds + localTime.toNat) :
    2000 ≤ moment.date.year ∧ moment.date.year ≤ 2136 := by
  have hcounter := localTime.toNat_lt
  have hhour := moment.hour_lt
  have hminute := moment.minute_lt
  have hsecond := moment.second_lt
  rw [start2000_seconds] at hseconds
  unfold Moment.seconds at hseconds
  constructor
  · by_contra hearly
    have hlt := moment.date.dayNumber_lt
    have hmono := daysBeforeYear_mono (by omega : moment.date.year + 1 ≤ 2000)
    have hclosed := daysBeforeYear_eq 2000
    omega
  · by_contra hlate
    have hmono := daysBeforeYear_mono (by omega : 2137 ≤ moment.date.year)
    have hclosed := daysBeforeYear_eq 2137
    have hstart := moment.date.daysBeforeYear_le_dayNumber
    omega

/-- What {lit}`get_ftime` returns is the one moment that lies {lit}`local_time`
seconds after the start of the year 2000, no variable cuts a value off on the way
to it, and a second later the function returns the second after it. -/
theorem get_ftime_calendar (localTime : UInt32) (hset : localTime ≠ 0) :
    ∃ (ft : Ftime) (moment : Moment), getFtime localTime = some ft ∧ ft.Shows moment ∧
      moment = Moment.next^[localTime.toNat] start2000 ∧
      (∀ other : Moment,
        other.seconds = start2000.seconds + localTime.toNat ↔ other = moment) ∧
      moment.date.year ≤ 2136 ∧
      Holds (ftimeSteps localTime) (exactSteps localTime.toNat) ∧
      (localTime + 1 ≠ 0 →
        ∃ ft' : Ftime, getFtime (localTime + 1) = some ft' ∧ ft'.Shows moment.next) := by
  obtain ⟨ft, moment, hft, hshows, hseconds, -⟩ := getFtime_shows hset
  refine ⟨ft, moment, hft, hshows, Moment.eq_iterate_next hseconds, ?_,
    (year_le_of_seconds hseconds).2, ftimeSteps_exact localTime, ?_⟩
  · intro other
    constructor
    · intro hother
      exact Moment.seconds_injective (hother.trans hseconds.symm)
    · intro hother
      rw [hother]
      exact hseconds
  · intro hnext
    obtain ⟨ft', moment', hft', hshows', hseconds', -⟩ := getFtime_shows hnext
    have hstep : (localTime + 1).toNat = localTime.toNat + 1 := by
      have hcounter := localTime.toNat_lt
      have hwrap : (localTime + 1).toNat ≠ 0 := by
        intro hzero
        exact hnext (UInt32.toNat_inj.mp hzero)
      have hone : (1 : UInt32).toNat = 1 := rfl
      rw [UInt32.toNat_add, hone] at hwrap ⊢
      omega
    have hmoment : moment' = moment.next := by
      apply Moment.seconds_injective
      rw [Moment.seconds_next, hseconds', hseconds, hstep]
      exact (Nat.add_assoc _ _ _).symm
    rw [← hmoment]
    exact ⟨ft', hft', hshows'⟩

/-- The last second of February 2100, a year without a leap day. -/
theorem get_ftime_calendar_february :
    ∃ (ft : Ftime) (moment : Moment), getFtime 3160857599 = some ft ∧ ft.Shows moment ∧
      moment = Moment.next^[3160857599] start2000 ∧
      ∃ ft' : Ftime, getFtime 3160857600 = some ft' ∧ ft'.Shows moment.next := by
  obtain ⟨ft, moment, hft, hshows, hmoment, -, -, -, hnext⟩ :=
    get_ftime_calendar 3160857599 (by decide)
  exact ⟨ft, moment, hft, hshows, hmoment, hnext (by decide)⟩

end Time
