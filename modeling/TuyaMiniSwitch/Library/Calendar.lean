import Mathlib.Tactic.Common
import Mathlib.Logic.Function.Iterate

/-!
# Library - The proleptic Gregorian calendar

A date carries the proof that it exists.  The calendar itself is only its
successor operation: the next day, and below it the next second.  Numbers are put
on top of it by counting the days of whole years and months, and every date has
its own number.

Main results:

- Theorem {lit}`Date.dayNumber_next`: the next day has the next number.
- Theorem {lit}`Date.dayNumber_injective`: two dates with one number are equal.
- Theorem {lit}`Moment.seconds_iterate_next`: after {lit}`n` successors the count
  of seconds has grown by {lit}`n`.
- Theorem {lit}`Moment.eq_iterate_next`: a moment whose count lies {lit}`n` above
  that of another is its {lit}`n`-th successor.
-/

namespace Calendar

/-! ## Years and months -/

/-- A leap year of the proleptic Gregorian calendar. -/
def IsLeap (year : Nat) : Prop :=
  year % 4 = 0 ∧ (year % 100 ≠ 0 ∨ year % 400 = 0)

instance : DecidablePred IsLeap := fun year =>
  inferInstanceAs (Decidable (year % 4 = 0 ∧ (year % 100 ≠ 0 ∨ year % 400 = 0)))

def daysInYear (year : Nat) : Nat :=
  if IsLeap year then 366 else 365

def daysInMonth (year month : Nat) : Nat :=
  match month with
  | 2 => if IsLeap year then 29 else 28
  | 4 | 6 | 9 | 11 => 30
  | _ => 31

theorem daysInMonth_pos (year month : Nat) : 1 ≤ daysInMonth year month := by
  unfold daysInMonth
  split
  · split <;> omega
  all_goals omega

theorem daysInMonth_le (year month : Nat) : daysInMonth year month ≤ 31 := by
  unfold daysInMonth
  split
  · split <;> omega
  all_goals omega

/-- The days of all years before the given one. -/
def daysBeforeYear : Nat → Nat
  | 0 => 0
  | year + 1 => daysBeforeYear year + daysInYear year

/-- The days of the year before the first of the given month. -/
def daysBeforeMonth (year : Nat) : Nat → Nat
  | 0 => 0
  | 1 => 0
  | month + 2 => daysBeforeMonth year (month + 1) + daysInMonth year (month + 1)

theorem daysBeforeMonth_succ (year : Nat) {month : Nat} (hmonth : 1 ≤ month) :
    daysBeforeMonth year (month + 1) =
      daysBeforeMonth year month + daysInMonth year month := by
  cases month with
  | zero => omega
  | succ month => rfl

/-- The twelve months make up the year. -/
theorem daysBeforeMonth_thirteen (year : Nat) :
    daysBeforeMonth year 13 = daysInYear year := by
  simp only [daysBeforeMonth, daysInMonth, daysInYear]
  split <;> rfl

theorem daysBeforeYear_mono {a b : Nat} (h : a ≤ b) :
    daysBeforeYear a ≤ daysBeforeYear b := by
  induction h with
  | refl => exact Nat.le_refl _
  | step _ ih => exact Nat.le_trans ih (Nat.le_add_right _ _)

theorem daysBeforeMonth_mono (year : Nat) {a b : Nat} (ha : 1 ≤ a) (h : a ≤ b) :
    daysBeforeMonth year a ≤ daysBeforeMonth year b := by
  induction h with
  | refl => exact Nat.le_refl _
  | step hle ih =>
      rw [daysBeforeMonth_succ year (Nat.le_trans ha hle)]
      exact Nat.le_trans ih (Nat.le_add_right _ _)

/-- The days before a year in closed form: a leap day every four years, none at
the centuries, one at every fourth of them. -/
theorem daysBeforeYear_eq (year : Nat) :
    daysBeforeYear year + (year + 99) / 100 =
      365 * year + (year + 3) / 4 + (year + 399) / 400 := by
  induction year with
  | zero => rfl
  | succ year ih =>
      rw [daysBeforeYear, daysInYear]
      split
      case isTrue hleap =>
        rcases hleap with ⟨hfour, hcentury | hfourHundred⟩ <;> omega
      case isFalse hleap =>
        have hcommon : year % 4 ≠ 0 ∨ (year % 100 = 0 ∧ year % 400 ≠ 0) := by
          unfold IsLeap at hleap
          omega
        rcases hcommon with hfour | ⟨hcentury, hfourHundred⟩ <;> omega

/-! ## Dates -/

@[ext]
structure Date where
  year : Nat
  month : Nat
  day : Nat
  month_pos : 1 ≤ month
  month_le : month ≤ 12
  day_pos : 1 ≤ day
  day_le : day ≤ daysInMonth year month
  deriving DecidableEq

namespace Date

/-- The day after. -/
def next (d : Date) : Date :=
  if hday : d.day < daysInMonth d.year d.month then
    { d with day := d.day + 1, day_pos := Nat.le_add_left 1 d.day, day_le := hday }
  else if hmonth : d.month < 12 then
    { year := d.year, month := d.month + 1, day := 1
      month_pos := Nat.le_add_left 1 d.month, month_le := hmonth
      day_pos := Nat.le_refl 1, day_le := daysInMonth_pos d.year (d.month + 1) }
  else
    { year := d.year + 1, month := 1, day := 1
      month_pos := Nat.le_refl 1, month_le := Nat.succ_pos 11
      day_pos := Nat.le_refl 1, day_le := daysInMonth_pos (d.year + 1) 1 }

/-- The first day of a year. -/
def newYear (year : Nat) : Date where
  year := year
  month := 1
  day := 1
  month_pos := Nat.le_refl 1
  month_le := Nat.succ_pos 11
  day_pos := Nat.le_refl 1
  day_le := daysInMonth_pos year 1

/-- The number of days from the first day of year 0 to this one. -/
def dayNumber (d : Date) : Nat :=
  daysBeforeYear d.year + daysBeforeMonth d.year d.month + (d.day - 1)

theorem dayNumber_next (d : Date) : d.next.dayNumber = d.dayNumber + 1 := by
  have hpos := d.day_pos
  have hle := d.day_le
  unfold next
  split
  case isTrue hday =>
    simp only [dayNumber]
    omega
  case isFalse hday =>
    have hlast : d.day = daysInMonth d.year d.month := by omega
    have hsucc := daysBeforeMonth_succ d.year d.month_pos
    split
    case isTrue hmonth =>
      simp only [dayNumber]
      omega
    case isFalse hmonth =>
      have hdecember : d.month = 12 := by
        have := d.month_le
        omega
      have hfull : daysBeforeMonth d.year 12 + daysInMonth d.year 12 = daysInYear d.year :=
        daysBeforeMonth_thirteen d.year
      rw [hdecember] at hlast
      have hyear : daysBeforeYear (d.year + 1) = daysBeforeYear d.year + daysInYear d.year :=
        rfl
      have hjanuary : daysBeforeMonth (d.year + 1) 1 = 0 := rfl
      simp only [dayNumber, hdecember, hyear, hjanuary]
      omega

/-- A date lies within its month. -/
theorem day_within (d : Date) :
    daysBeforeMonth d.year d.month + (d.day - 1) <
      daysBeforeMonth d.year (d.month + 1) := by
  have hpos := d.day_pos
  have hle := d.day_le
  rw [daysBeforeMonth_succ d.year d.month_pos]
  omega

theorem daysBeforeYear_le_dayNumber (d : Date) : daysBeforeYear d.year ≤ d.dayNumber := by
  unfold dayNumber
  omega

/-- A date lies within its year. -/
theorem dayNumber_lt (d : Date) : d.dayNumber < daysBeforeYear (d.year + 1) := by
  have hwithin := d.day_within
  have hmono := daysBeforeMonth_mono d.year (Nat.le_add_left 1 d.month)
    (Nat.succ_le_succ d.month_le)
  rw [daysBeforeMonth_thirteen] at hmono
  rw [daysBeforeYear, dayNumber]
  omega

theorem year_le_of_dayNumber_le {d e : Date} (h : d.dayNumber ≤ e.dayNumber) :
    d.year ≤ e.year := by
  by_contra hlt
  have hlater : e.year + 1 ≤ d.year := Nat.lt_of_not_le hlt
  have hmono := daysBeforeYear_mono hlater
  have hwithin := e.dayNumber_lt
  have hstart := d.daysBeforeYear_le_dayNumber
  omega

theorem month_le_of_dayNumber_le {d e : Date} (hyear : d.year = e.year)
    (h : d.dayNumber ≤ e.dayNumber) : d.month ≤ e.month := by
  by_contra hlt
  have hlater : e.month + 1 ≤ d.month := Nat.lt_of_not_le hlt
  have hmono := daysBeforeMonth_mono e.year (Nat.le_add_left 1 e.month) hlater
  have hwithin := e.day_within
  simp only [dayNumber, hyear] at h
  omega

/-- The number of a day determines its date. -/
theorem dayNumber_injective {d e : Date} (h : d.dayNumber = e.dayNumber) : d = e := by
  have hyear : d.year = e.year :=
    Nat.le_antisymm (year_le_of_dayNumber_le (Nat.le_of_eq h))
      (year_le_of_dayNumber_le (Nat.le_of_eq h.symm))
  have hmonth : d.month = e.month :=
    Nat.le_antisymm (month_le_of_dayNumber_le hyear (Nat.le_of_eq h))
      (month_le_of_dayNumber_le hyear.symm (Nat.le_of_eq h.symm))
  have hday : d.day = e.day := by
    have hd := d.day_pos
    have he := e.day_pos
    simp only [dayNumber, hyear, hmonth] at h
    omega
  exact Date.ext hyear hmonth hday

end Date

/-! ## Moments -/

/-- A date with a time of day, to the second. -/
@[ext]
structure Moment where
  date : Date
  hour : Nat
  minute : Nat
  second : Nat
  hour_lt : hour < 24
  minute_lt : minute < 60
  second_lt : second < 60
  deriving DecidableEq

namespace Moment

/-- The second after. -/
def next (m : Moment) : Moment :=
  if hsecond : m.second + 1 < 60 then
    { m with second := m.second + 1, second_lt := hsecond }
  else if hminute : m.minute + 1 < 60 then
    { m with
      minute := m.minute + 1, minute_lt := hminute
      second := 0, second_lt := Nat.succ_pos 59 }
  else if hhour : m.hour + 1 < 24 then
    { m with
      hour := m.hour + 1, hour_lt := hhour
      minute := 0, minute_lt := Nat.succ_pos 59
      second := 0, second_lt := Nat.succ_pos 59 }
  else
    { date := m.date.next
      hour := 0, hour_lt := Nat.succ_pos 23
      minute := 0, minute_lt := Nat.succ_pos 59
      second := 0, second_lt := Nat.succ_pos 59 }

/-- The first second of a date. -/
def midnight (date : Date) : Moment where
  date := date
  hour := 0
  minute := 0
  second := 0
  hour_lt := Nat.succ_pos 23
  minute_lt := Nat.succ_pos 59
  second_lt := Nat.succ_pos 59

/-- The number of seconds from the start of year 0 to this one. -/
def seconds (m : Moment) : Nat :=
  86400 * m.date.dayNumber + 3600 * m.hour + 60 * m.minute + m.second

theorem seconds_next (m : Moment) : m.next.seconds = m.seconds + 1 := by
  have hhour := m.hour_lt
  have hminute := m.minute_lt
  have hsecond := m.second_lt
  unfold next
  split
  · simp only [seconds]
    omega
  · split
    · simp only [seconds]
      omega
    · split
      · simp only [seconds]
        omega
      · simp only [seconds, Date.dayNumber_next]
        omega

theorem seconds_injective {m n : Moment} (h : m.seconds = n.seconds) : m = n := by
  have hm := m.hour_lt
  have hm' := m.minute_lt
  have hm'' := m.second_lt
  have hn := n.hour_lt
  have hn' := n.minute_lt
  have hn'' := n.second_lt
  unfold seconds at h
  have hdate : m.date.dayNumber = n.date.dayNumber := by omega
  refine Moment.ext (Date.dayNumber_injective hdate) ?_ ?_ ?_ <;> omega

theorem seconds_iterate_next (m : Moment) (n : Nat) :
    (next^[n] m).seconds = m.seconds + n := by
  induction n with
  | zero => rfl
  | succ n ih =>
      rw [Function.iterate_succ_apply', seconds_next, ih]
      exact Nat.add_assoc _ _ _

/-- What lies {lit}`n` seconds after a moment is its {lit}`n`-th successor. -/
theorem eq_iterate_next {m start : Moment} {n : Nat}
    (h : m.seconds = start.seconds + n) : m = next^[n] start := by
  apply seconds_injective
  rw [seconds_iterate_next]
  exact h

end Moment

end Calendar
