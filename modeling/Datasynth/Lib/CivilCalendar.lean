import Mathlib.Algebra.Order.Group.Int
import Mathlib.Data.Int.ConditionallyCompleteOrder
import Mathlib.Data.Int.Order.Basic
import Mathlib.Order.Lattice
import Mathlib.Order.Monotone.Basic
import Mathlib.Tactic.Common
import Mathlib.Tactic.IntervalCases
import Mathlib.Tactic.Linarith

/-!
Dates of the proleptic Gregorian calendar, kept as day numbers, with the
conversion to year, month and day and month arithmetic.
-/

namespace Datasynth.Lib.CivilCalendar

/-- A civil date, as the number of days since 1970-01-01. -/
structure Date where
  dayNumber : ℤ
deriving DecidableEq, Repr

theorem Date.dayNumber_injective : Function.Injective Date.dayNumber := by
  rintro ⟨a⟩ ⟨b⟩ h
  exact congrArg Date.mk h

instance : LinearOrder Date := LinearOrder.lift' Date.dayNumber Date.dayNumber_injective

/-- The number of days from `a` to `b`, negative when `b` is earlier. -/
def Date.daysUntil (a b : Date) : ℤ := b.dayNumber - a.dayNumber

def Date.addDays (d : Date) (n : ℤ) : Date := ⟨d.dayNumber + n⟩

def isLeapYear (year : ℤ) : Bool := year % 4 = 0 && (year % 100 ≠ 0 || year % 400 = 0)

def daysInMonth (year : ℤ) (month : ℕ) : ℕ :=
  match month with
  | 2 => if isLeapYear year then 29 else 28
  | 4 | 6 | 9 | 11 => 30
  | _ => 31

/-- The date of a year, month and day.  Years are counted from March, so that the
leap day is the last day of a year; 400 years are 146097 days. -/
def Date.ofYmd (year : ℤ) (month day : ℕ) : Date :=
  let y := if month ≤ 2 then year - 1 else year
  let era := y / 400
  let yearOfEra := y % 400
  let dayOfYear := (153 * ((month + 9) % 12) + 2) / 5 + day - 1
  ⟨era * 146097 + (yearOfEra * 365 + yearOfEra / 4 - yearOfEra / 100 + dayOfYear) - 719468⟩

/-- The year, month and day of a date. -/
def Date.toYmd (d : Date) : ℤ × ℕ × ℕ :=
  let z := d.dayNumber + 719468
  let era := z / 146097
  let dayOfEra := z % 146097
  let yearOfEra :=
    (dayOfEra - dayOfEra / 1460 + dayOfEra / 36524 - dayOfEra / 146096) / 365
  let dayOfYear := (dayOfEra - (365 * yearOfEra + yearOfEra / 4 - yearOfEra / 100)).toNat
  let m := (5 * dayOfYear + 2) / 153
  let month := if m < 10 then m + 3 else m - 9
  let day := dayOfYear - (153 * m + 2) / 5 + 1
  (if month ≤ 2 then era * 400 + yearOfEra + 1 else era * 400 + yearOfEra, month, day)

def Date.year (d : Date) : ℤ := d.toYmd.1

def Date.month (d : Date) : ℕ := d.toYmd.2.1

def Date.day (d : Date) : ℕ := d.toYmd.2.2

/-- The years a calendar implementation represents. -/
def yearInRange (year : ℤ) : Bool := -262143 ≤ year && year ≤ 262142

/-- Add whole months; a day past the end of the month becomes its last day. -/
def Date.checkedAddMonths (d : Date) (months : ℕ) : Option Date :=
  let total := d.year * 12 + (d.month - 1 : ℕ) + months
  let year := total / 12
  let month := (total % 12).toNat + 1
  if yearInRange year then some (Date.ofYmd year month (min d.day (daysInMonth year month)))
  else none

/-- The day before, unless the calendar ends there. -/
def Date.pred? (d : Date) : Option Date :=
  if yearInRange (d.addDays (-1)).year then some (d.addDays (-1)) else none

example : (Date.ofYmd 2024 1 31).checkedAddMonths 1 = some (Date.ofYmd 2024 2 29) := by decide

end Datasynth.Lib.CivilCalendar

/-!
The months of the calendar as a sequence: month `k` is month `k % 12 + 1` of year `k / 12`.
Their first days increase, and every date lies in exactly one of them.
-/

namespace Datasynth.Lib.CivilCalendar

section YearDays

/-- The days before a year that begins in March. -/
def marchDays (year : ℤ) : ℤ := year * 365 + year / 4 - year / 100 + year / 400

theorem marchDays_eq (year : ℤ) :
    marchDays year =
      year / 400 * 146097 + (year % 400 * 365 + year % 400 / 4 - year % 400 / 100) := by
  rw [marchDays]
  omega

theorem marchDays_succ (year : ℤ) :
    marchDays (year + 1) = marchDays year + if isLeapYear (year + 1) then 366 else 365 := by
  have hleap : isLeapYear (year + 1) = true ↔
      (year + 1) % 4 = 0 ∧ ((year + 1) % 100 ≠ 0 ∨ (year + 1) % 400 = 0) := by
    simp [isLeapYear]
  rw [marchDays, marchDays]
  by_cases h : isLeapYear (year + 1) = true
  · rw [if_pos h]
    rw [hleap] at h
    omega
  · rw [if_neg h]
    rw [hleap] at h
    omega

end YearDays

section Months

/-- The first day of month `k`.  The days before a month of a year that begins in March depend
on the month only. -/
def monthStart (k : ℤ) : Date :=
  ⟨marchDays ((k - 2) / 12) + (153 * ((k - 2) % 12) + 2) / 5 - 719468⟩

def Date.monthNumber (d : Date) : ℤ := d.year * 12 + d.month - 1

theorem ofYmd_eq (year : ℤ) {month day : ℕ} (hmonth : 1 ≤ month ∧ month ≤ 12) (hday : 1 ≤ day) :
    Date.ofYmd year month day = (monthStart (year * 12 + month - 1)).addDays (day - 1) := by
  have hmarch : ∀ y : ℤ, (if month ≤ 2 then year - 1 else year) = y →
      (year * 12 + month - 1 - 2) / 12 = y ∧
        (year * 12 + month - 1 - 2) % 12 = ((month + 9) % 12 : ℕ) := by
    intro y hy
    split at hy <;> omega
  obtain ⟨hyear, hoffset⟩ := hmarch _ rfl
  rw [Date.ofYmd, monthStart, Date.addDays, hyear, hoffset, marchDays_eq]
  congr 1
  dsimp only
  generalize (if month ≤ 2 then year - 1 else year) = y
  generalize (month + 9) % 12 = m
  omega

/-- A month lasts as long as its name says. -/
theorem monthStart_succ (year : ℤ) {month : ℕ} (hmonth : 1 ≤ month ∧ month ≤ 12) :
    monthStart (year * 12 + month) =
      (monthStart (year * 12 + month - 1)).addDays (daysInMonth year month) := by
  obtain ⟨hlow, hhigh⟩ := hmonth
  rw [monthStart, monthStart, Date.addDays]
  congr 1
  dsimp only
  by_cases hfebruary : month = 2
  · subst hfebruary
    have hyear : (year * 12 + (2 : ℕ) - 2) / 12 = year := by omega
    have hprevious : (year * 12 + (2 : ℕ) - 1 - 2) / 12 = year - 1 := by omega
    have hdays := marchDays_succ (year - 1)
    rw [sub_add_cancel] at hdays
    rw [hyear, hprevious, hdays, daysInMonth]
    split <;> omega
  · have hsame : (year * 12 + month - 2) / 12 = (year * 12 + month - 1 - 2) / 12 := by omega
    rw [hsame]
    generalize marchDays _ = days
    interval_cases month <;> simp only [daysInMonth] <;> omega

theorem monthStart_lt_succ (k : ℤ) : monthStart k < monthStart (k + 1) := by
  have hk : ∃ (year : ℤ) (month : ℕ), (1 ≤ month ∧ month ≤ 12) ∧ k = year * 12 + month - 1 :=
    ⟨k / 12, (k % 12).toNat + 1, by omega, by omega⟩
  obtain ⟨year, month, hmonth, rfl⟩ := hk
  rw [sub_add_cancel, monthStart_succ year hmonth]
  have hdays : 1 ≤ daysInMonth year month := by
    unfold daysInMonth
    split <;> (try split) <;> omega
  show (monthStart _).dayNumber < (monthStart _).dayNumber + _
  omega

theorem monthStart_strictMono : StrictMono monthStart :=
  strictMono_int_of_lt_succ monthStart_lt_succ

/-- The centuries, leap cycles and years of a day in a period of 400 years. -/
theorem exists_yearOfEra {z : ℤ} (hz : 0 ≤ z ∧ z < 146097) :
    ∃ c q s t : ℤ, (0 ≤ c ∧ c ≤ 3) ∧ (0 ≤ q ∧ q ≤ 24) ∧ (0 ≤ s ∧ s ≤ 3) ∧ 0 ≤ t ∧
      (t ≤ 364 ∨ t = 365 ∧ s = 3 ∧ (q ≤ 23 ∨ c = 3)) ∧
      z = 36524 * c + 1461 * q + 365 * s + t := by
  refine ⟨min (z / 36524) 3, (z - 36524 * min (z / 36524) 3) / 1461,
    min ((z - 36524 * min (z / 36524) 3) % 1461 / 365) 3,
    (z - 36524 * min (z / 36524) 3) % 1461 -
      365 * min ((z - 36524 * min (z / 36524) 3) % 1461 / 365) 3, ?_⟩
  generalize hc : min (z / 36524) 3 = c
  have hcentury : 0 ≤ c ∧ c ≤ 3 ∧ 0 ≤ z - 36524 * c ∧
      (z - 36524 * c < 36524 ∨ c = 3 ∧ z - 36524 * c = 36524) := by omega
  generalize hr : z - 36524 * c = r at hcentury
  generalize hs : min (r % 1461 / 365) 3 = s
  omega

/-- The year of such a day, as it is computed from the day. -/
theorem yearOfEra_eq {z c q s t : ℤ} (hc : 0 ≤ c ∧ c ≤ 3) (hq : 0 ≤ q ∧ q ≤ 24)
    (hs : 0 ≤ s ∧ s ≤ 3) (ht : 0 ≤ t) (hleap : t ≤ 364 ∨ t = 365 ∧ s = 3 ∧ (q ≤ 23 ∨ c = 3))
    (hz : z = 36524 * c + 1461 * q + 365 * s + t) :
    (z - z / 1460 + z / 36524 - z / 146096) / 365 = 100 * c + 4 * q + s := by
  have hcentury : 0 ≤ 1461 * q + 365 * s + t ∧
      (1461 * q + 365 * s + t ≤ 36523 ∨ c = 3 ∧ 1461 * q + 365 * s + t = 36524) := by omega
  have hcenturies : z / 36524 - z / 146096 = c := by
    generalize hr : 1461 * q + 365 * s + t = r at hcentury
    have hz' : z = 36524 * c + r := by omega
    clear hleap hz hr
    omega
  have hcycles : z / 1460 = 25 * c + q + (24 * c + q + 365 * s + t) / 1460 := by omega
  have hdays : z - z / 1460 + z / 36524 - z / 146096 =
      36500 * c + 1460 * q + 365 * s + t - (24 * c + q + 365 * s + t) / 1460 := by omega
  rw [hdays]
  omega

theorem div_yearOfEra {c q s : ℤ} (hq : 0 ≤ q ∧ q ≤ 24) (hs : 0 ≤ s ∧ s ≤ 3) :
    (100 * c + 4 * q + s) / 4 = 25 * c + q ∧ (100 * c + 4 * q + s) / 100 = c := by
  omega

theorem marchDays_era {era c q s : ℤ} (hc : 0 ≤ c ∧ c ≤ 3) (hq : 0 ≤ q ∧ q ≤ 24)
    (hs : 0 ≤ s ∧ s ≤ 3) :
    marchDays (era * 400 + (100 * c + 4 * q + s)) =
      era * 146097 + (36524 * c + 1461 * q + 365 * s) := by
  obtain ⟨hfour, hhundred⟩ := div_yearOfEra (c := c) hq hs
  obtain ⟨hlow, hhigh⟩ := hc
  have hmod : (era * 400 + (100 * c + 4 * q + s)) % 400 = 100 * c + 4 * q + s := by omega
  have hdiv : (era * 400 + (100 * c + 4 * q + s)) / 400 = era := by omega
  rw [marchDays_eq, hmod, hdiv, hfour, hhundred]
  omega

/-- The day is one of its year. -/
theorem lt_marchDays_succ {era c q s t : ℤ} (hc : 0 ≤ c ∧ c ≤ 3) (hq : 0 ≤ q ∧ q ≤ 24)
    (hs : 0 ≤ s ∧ s ≤ 3) (hleap : t ≤ 364 ∨ t = 365 ∧ s = 3 ∧ (q ≤ 23 ∨ c = 3)) :
    t < marchDays (era * 400 + (100 * c + 4 * q + s) + 1) -
      marchDays (era * 400 + (100 * c + 4 * q + s)) := by
  obtain ⟨hlow, hhigh⟩ := hc
  rw [marchDays_succ, add_sub_cancel_left]
  by_cases hlast : isLeapYear (era * 400 + (100 * c + 4 * q + s) + 1) = true
  · rw [if_pos hlast]
    omega
  · rw [if_neg hlast]
    simp only [isLeapYear, Bool.and_eq_true, Bool.or_eq_true, decide_eq_true_eq] at hlast
    omega

/-- A date by the year that begins in March and the day of that year. -/
theorem exists_marchDay (d : Date) :
    ∃ (y : ℤ) (t : ℕ), (t : ℤ) < marchDays (y + 1) - marchDays y ∧
      d.dayNumber = marchDays y + t - 719468 ∧
      d.toYmd = (if (if (5 * t + 2) / 153 < 10 then (5 * t + 2) / 153 + 3
          else (5 * t + 2) / 153 - 9) ≤ 2 then y + 1 else y,
        if (5 * t + 2) / 153 < 10 then (5 * t + 2) / 153 + 3 else (5 * t + 2) / 153 - 9,
        t - (153 * ((5 * t + 2) / 153) + 2) / 5 + 1) := by
  have hz : 0 ≤ (d.dayNumber + 719468) % 146097 ∧ (d.dayNumber + 719468) % 146097 < 146097 := by
    omega
  have hsplit := Int.mul_ediv_add_emod (d.dayNumber + 719468) 146097
  rw [Date.toYmd]
  generalize (d.dayNumber + 719468) / 146097 = era at *
  generalize (d.dayNumber + 719468) % 146097 = z at *
  obtain ⟨c, q, s, t, hc, hq, hs, ht, hleap, hzeq⟩ := exists_yearOfEra hz
  have hyear := yearOfEra_eq hc hq hs ht hleap hzeq
  obtain ⟨hfour, hhundred⟩ := div_yearOfEra (c := c) hq hs
  have hdayOfYear : z - (365 * (100 * c + 4 * q + s) + (100 * c + 4 * q + s) / 4 -
      (100 * c + 4 * q + s) / 100) = t := by
    rw [hfour, hhundred]
    linarith
  lift t to ℕ using ht
  refine ⟨era * 400 + (100 * c + 4 * q + s), t, lt_marchDays_succ hc hq hs hleap, ?_, ?_⟩
  · rw [marchDays_era hc hq hs]
    linarith
  · rw [hyear, hdayOfYear, Int.toNat_natCast]

/-- The number of the month of a date and its day there, by the year that begins in March. -/
theorem exists_monthDay (d : Date) :
    ∃ (y : ℤ) (t : ℕ), (t : ℤ) < marchDays (y + 1) - marchDays y ∧ t ≤ 365 ∧
      d.dayNumber = marchDays y + t - 719468 ∧ (1 ≤ d.month ∧ d.month ≤ 12) ∧
      d.monthNumber = 12 * y + ((5 * t + 2) / 153 : ℕ) + 2 ∧
      d.day = t - (153 * ((5 * t + 2) / 153) + 2) / 5 + 1 := by
  obtain ⟨y, t, ht, hday, hymd⟩ := exists_marchDay d
  have hyear : t ≤ 365 := by
    rw [marchDays_succ, add_sub_cancel_left] at ht
    split at ht <;> omega
  refine ⟨y, t, ht, hyear, hday, ?_⟩
  generalize hm : (5 * t + 2) / 153 = m at hymd
  rw [Date.monthNumber, Date.year, Date.month, Date.day, hymd]
  by_cases hautumn : m < 10
  · rw [if_pos hautumn, if_neg (by omega)]
    dsimp only
    omega
  · rw [if_neg hautumn, if_pos (by omega)]
    dsimp only
    omega

/-- A date lies in the month that its year and month name. -/
theorem Date.month_spec (d : Date) :
    (1 ≤ d.month ∧ d.month ≤ 12) ∧ monthStart d.monthNumber ≤ d ∧
      d < monthStart (d.monthNumber + 1) := by
  obtain ⟨y, t, ht, hyear, hday, hmonth, hnumber, -⟩ := exists_monthDay d
  generalize hm : (5 * t + 2) / 153 = m at hnumber
  refine ⟨hmonth, ?_, ?_⟩
  · show (monthStart d.monthNumber).dayNumber ≤ d.dayNumber
    have hdiv : (12 * y + m + 2 - 2) / 12 = y := by omega
    have hmod : (12 * y + m + 2 - 2) % 12 = m := by omega
    rw [hnumber, monthStart, hday, hdiv, hmod]
    dsimp only
    omega
  · show d.dayNumber < (monthStart (d.monthNumber + 1)).dayNumber
    rw [hnumber, monthStart, hday]
    by_cases hlast : m = 11
    · have hdiv : (12 * y + m + 2 + 1 - 2) / 12 = y + 1 := by omega
      have hmod : (12 * y + m + 2 + 1 - 2) % 12 = 0 := by omega
      rw [hdiv, hmod]
      dsimp only
      omega
    · have hdiv : (12 * y + m + 2 + 1 - 2) / 12 = y := by omega
      have hmod : (12 * y + m + 2 + 1 - 2) % 12 = m + 1 := by omega
      rw [hdiv, hmod]
      dsimp only
      omega

/-- The day of a date counts from the first day of its month. -/
theorem Date.day_spec (d : Date) :
    1 ≤ d.day ∧ d = (monthStart d.monthNumber).addDays (d.day - 1) := by
  obtain ⟨y, t, -, hyear, hday, -, hnumber, hd⟩ := exists_monthDay d
  generalize hm : (5 * t + 2) / 153 = m at hnumber hd
  have hdiv : (12 * y + m + 2 - 2) / 12 = y := by omega
  have hmod : (12 * y + m + 2 - 2) % 12 = m := by omega
  refine ⟨by omega, Date.dayNumber_injective ?_⟩
  rw [Date.addDays, hnumber, monthStart, hdiv, hmod, hday, hd]
  dsimp only
  omega

/-- The month of a date, by first days. -/
theorem monthStart_le_iff {k : ℤ} {d : Date} : monthStart k ≤ d ↔ k ≤ d.monthNumber := by
  obtain ⟨-, hlow, hhigh⟩ := d.month_spec
  constructor
  · intro h
    have hlt := monthStart_strictMono.lt_iff_lt.mp (h.trans_lt hhigh)
    omega
  · intro h
    exact (monthStart_strictMono.monotone h).trans hlow

theorem lt_monthStart_iff {k : ℤ} {d : Date} : d < monthStart k ↔ d.monthNumber < k := by
  rw [← not_le, monthStart_le_iff, not_le]

theorem monthNumber_eq_iff {k : ℤ} {d : Date} :
    d.monthNumber = k ↔ monthStart k ≤ d ∧ d < monthStart (k + 1) := by
  rw [monthStart_le_iff, lt_monthStart_iff]
  omega

theorem Date.monthNumber_mono {d d' : Date} (h : d ≤ d') : d.monthNumber ≤ d'.monthNumber :=
  monthStart_le_iff.mp (d.month_spec.2.1.trans h)

theorem Date.year_eq (d : Date) : d.year = d.monthNumber / 12 := by
  obtain ⟨hmonth, -⟩ := d.month_spec
  rw [Date.monthNumber]
  omega

theorem Date.month_eq (d : Date) : (d.month : ℤ) = d.monthNumber % 12 + 1 := by
  obtain ⟨hmonth, -⟩ := d.month_spec
  rw [Date.monthNumber]
  omega

/-- A day of a month that the month has is a date of that month. -/
theorem monthNumber_ofYmd (year : ℤ) {month day : ℕ} (hmonth : 1 ≤ month ∧ month ≤ 12)
    (hday : 1 ≤ day ∧ day ≤ daysInMonth year month) :
    (Date.ofYmd year month day).monthNumber = year * 12 + month - 1 := by
  rw [monthNumber_eq_iff, ofYmd_eq year hmonth hday.1, sub_add_cancel,
    monthStart_succ year hmonth]
  constructor
  · show (monthStart _).dayNumber ≤ (monthStart _).dayNumber + _
    omega
  · show (monthStart _).dayNumber + _ < (monthStart _).dayNumber + _
    omega

theorem day_ofYmd (year : ℤ) {month day : ℕ} (hmonth : 1 ≤ month ∧ month ≤ 12)
    (hday : 1 ≤ day ∧ day ≤ daysInMonth year month) : (Date.ofYmd year month day).day = day := by
  obtain ⟨hone, heq⟩ := (Date.ofYmd year month day).day_spec
  rw [monthNumber_ofYmd year hmonth hday] at heq
  have hsame := congrArg Date.dayNumber (heq.symm.trans (ofYmd_eq year hmonth hday.1))
  have hdays : ((Date.ofYmd year month day).day : ℤ) - 1 = day - 1 := add_left_cancel hsame
  omega

theorem le_daysInMonth (year : ℤ) (month : ℕ) : 28 ≤ daysInMonth year month := by
  unfold daysInMonth
  split <;> (try split) <;> omega

theorem Date.day_le (d : Date) : d.day ≤ daysInMonth d.year d.month := by
  obtain ⟨hone, heq⟩ := d.day_spec
  obtain ⟨hmonth, -, hhigh⟩ := d.month_spec
  have hnext : d.monthNumber + 1 = d.year * 12 + d.month := by
    rw [Date.monthNumber]
    omega
  have hstart : monthStart (d.year * 12 + d.month - 1) = monthStart d.monthNumber := rfl
  rw [hnext, monthStart_succ d.year hmonth, hstart] at hhigh
  have hfirst := congrArg Date.dayNumber heq
  have hlast : d.dayNumber < (monthStart d.monthNumber).dayNumber + daysInMonth d.year d.month :=
    hhigh
  have hsum : d.dayNumber = (monthStart d.monthNumber).dayNumber + (d.day - 1) := hfirst
  omega

/-- A year has at least 365 days. -/
theorem add_lt_monthStart (year : ℤ) {n : ℤ} (hn : n < 365) :
    (monthStart (year * 12)).addDays n < monthStart ((year + 1) * 12) := by
  have hdays := marchDays_succ (year - 1)
  show (monthStart _).dayNumber + n < (monthStart _).dayNumber
  rw [monthStart, monthStart]
  have hfirst : (year * 12 - 2) / 12 = year - 1 := by omega
  have hsecond : ((year + 1) * 12 - 2) / 12 = year := by omega
  have hoffset : (year * 12 - 2) % 12 = 10 := by omega
  have hoffset' : ((year + 1) * 12 - 2) % 12 = 10 := by omega
  rw [sub_add_cancel] at hdays
  rw [hfirst, hsecond, hoffset, hoffset', hdays]
  dsimp only
  split <;> omega

end Months

end Datasynth.Lib.CivilCalendar
