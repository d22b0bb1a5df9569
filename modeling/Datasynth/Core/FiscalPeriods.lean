import Mathlib.Algebra.Order.BigOperators.Group.List
import Mathlib.Data.Set.Basic
import Datasynth.Lib.CivilCalendar
import Datasynth.Core.FiscalCalendars

/-!
The fiscal periods of a calendar tile its years: a date lies in the period that is made for it,
and in no other.  Two kinds of dates are left out: those before the configured first day of a
year in the month of that day, and those whose day of the year does not fit in 8 bits in a
calendar of quarters.
-/

namespace Datasynth.Core.FiscalPeriods

open Datasynth.Lib.CivilCalendar
open Datasynth.Core.FiscalCalendars

section Statement

def Representable (date : Date) : Prop := yearInRange date.year = true

def Valid : FiscalCalendarType → Prop
  | .customYearStart start_month start_day =>
      (1 ≤ start_month ∧ start_month ≤ 12) ∧ 1 ≤ start_day ∧ start_day ≤ 31
  | _ => True

/-- The years and periods of the dates are computed, and within a year the periods follow the
dates. -/
structure OrdersDates (calendar_type : FiscalCalendarType) (dates : Set Date) : Prop where
  computed : ∀ date ∈ dates, ∃ year period,
    fiscal_year calendar_type date = some year ∧ fiscal_period calendar_type date = some period
  monotone : ∀ date ∈ dates, ∀ date' ∈ dates, ∀ year period period', date ≤ date' →
    fiscal_year calendar_type date = some year → fiscal_year calendar_type date' = some year →
    fiscal_period calendar_type date = some period →
    fiscal_period calendar_type date' = some period' → period ≤ period'

/-- Each of the dates lies in its own period, and in those of other dates only if it is theirs
too. -/
structure TilesDates (calendar_type : FiscalCalendarType) (dates : Set Date) : Prop where
  computed : ∀ date ∈ dates, ∃ p, FiscalPeriod.from_calendar calendar_type date = some p ∧
    fiscal_year calendar_type date = some p.year ∧
    fiscal_period calendar_type date = some p.period
  contains : ∀ date ∈ dates, ∀ p, FiscalPeriod.from_calendar calendar_type date = some p →
    p.contains date = true
  same_iff : ∀ date ∈ dates, ∀ date' ∈ dates, ∀ p,
    FiscalPeriod.from_calendar calendar_type date = some p →
    (FiscalPeriod.from_calendar calendar_type date' = some p ↔ p.contains date' = true)

/-- The dates whose year and period a calendar computes by one rule. -/
def orderedDates : FiscalCalendarType → Set Date
  | .calendarYear | .thirteenPeriod => {date | Representable date}
  | .customYearStart start_month start_day => {date | Representable date ∧
      (date.month = start_month → ∀ start, year_start date.year start_month start_day = some start →
        start ≤ date)}
  | .fourFourFive _ => {date | Representable date ∧ ordinal date ≤ 255}

/-- Those of them that a period has room for.  The last month of all has no next one, and
thirteen times four weeks are 364 days. -/
def tiledDates : FiscalCalendarType → Set Date
  | .calendarYear => {date | date ∈ orderedDates .calendarYear ∧
      ¬ (date.year = 262142 ∧ date.month = 12)}
  | .customYearStart start_month start_day =>
      {date | date ∈ orderedDates (.customYearStart start_month start_day) ∧
        ¬ (date.year = 262142 ∧ date.month = 12)}
  | .fourFourFive pattern => orderedDates (.fourFourFive pattern)
  | .thirteenPeriod => {date | Representable date ∧ ordinal date ≤ 364}

end Statement

section Dates

theorem yearInRange_iff {year : ℤ} :
    yearInRange year = true ↔ -262143 ≤ year ∧ year ≤ 262142 := by
  simp [yearInRange]

theorem representable_iff {date : Date} :
    Representable date ↔
      -262143 * 12 ≤ date.monthNumber ∧ date.monthNumber < 262143 * 12 := by
  rw [Representable, yearInRange_iff, Date.year_eq]
  omega

theorem from_ymd_opt_first {year : ℤ} (hyear : -262143 ≤ year ∧ year ≤ 262142) {month : ℕ}
    (hmonth : 1 ≤ month ∧ month ≤ 12) :
    from_ymd_opt year month 1 = some (monthStart (year * 12 + month - 1)) := by
  have hdays : 1 ≤ daysInMonth year month := by
    unfold daysInMonth
    split <;> (try split) <;> omega
  rw [from_ymd_opt, if_pos ⟨yearInRange_iff.mpr hyear, hmonth, le_rfl, hdays⟩,
    ofYmd_eq year hmonth le_rfl]
  simp [Date.addDays]

theorem monthNumber_monthStart (k : ℤ) : (monthStart k).monthNumber = k :=
  monthNumber_eq_iff.mpr ⟨le_rfl, monthStart_lt_succ k⟩

/-- The first day of a year is in the first month, whichever day is configured. -/
theorem exists_year_start {year : ℤ} (hyear : -262143 ≤ year ∧ year ≤ 262142) {month : ℕ}
    (hmonth : 1 ≤ month ∧ month ≤ 12) (day : ℕ) :
    ∃ start, year_start year month day = some start ∧
      start.monthNumber = year * 12 + month - 1 := by
  rw [year_start]
  by_cases hday : 1 ≤ day ∧ day ≤ daysInMonth year month
  · rw [from_ymd_opt, if_pos ⟨yearInRange_iff.mpr hyear, hmonth, hday⟩]
    exact ⟨_, rfl, monthNumber_ofYmd year hmonth hday⟩
  · have hnone : from_ymd_opt year month day = none := by
      rw [from_ymd_opt, if_neg]
      rintro ⟨-, -, h⟩
      exact hday h
    rw [hnone, from_ymd_opt_first hyear hmonth]
    exact ⟨_, rfl, monthNumber_monthStart _⟩

/-- Between two dates of the calendar there is no end of it. -/
theorem pred?_eq {date next : Date} (hdate : Representable date) (hnext : Representable next)
    (h : date < next) : next.pred? = some (next.addDays (-1)) := by
  have hlow : date ≤ next.addDays (-1) := by
    have hdays : date.dayNumber < next.dayNumber := h
    show date.dayNumber ≤ next.dayNumber + -1
    omega
  have hhigh : next.addDays (-1) ≤ next := by
    show next.dayNumber + -1 ≤ next.dayNumber
    omega
  have hrange : Representable (next.addDays (-1)) := by
    rw [representable_iff] at hdate hnext ⊢
    exact ⟨hdate.1.trans (Date.monthNumber_mono hlow),
      (Date.monthNumber_mono hhigh).trans_lt hnext.2⟩
  rw [Date.pred?]
  exact if_pos hrange

/-- A period by the first day after it. -/
theorem contains_iff {p : FiscalPeriod} {next : Date} (hend : p.end_date = next.addDays (-1))
    (date : Date) : p.contains date = true ↔ p.start_date ≤ date ∧ date < next := by
  have hlt : date ≤ next.addDays (-1) ↔ date < next := by
    show date.dayNumber ≤ next.dayNumber + -1 ↔ date.dayNumber < next.dayNumber
    omega
  rw [FiscalPeriod.contains, hend, Bool.and_eq_true, decide_eq_true_eq, decide_eq_true_eq, hlt]

end Dates

section Labels

/-- A calendar tiles dates if the period of each holds those with its year and number. -/
theorem tilesDates_of_labels {calendar_type : FiscalCalendarType} {dates : Set Date}
    (h : ∀ date ∈ dates, ∃ p, FiscalPeriod.from_calendar calendar_type date = some p ∧
      fiscal_year calendar_type date = some p.year ∧
      fiscal_period calendar_type date = some p.period ∧
      ∀ date' ∈ dates, p.contains date' = true ↔
        fiscal_year calendar_type date' = some p.year ∧
          fiscal_period calendar_type date' = some p.period) :
    TilesDates calendar_type dates := by
  refine ⟨?_, ?_, ?_⟩
  · intro date hdate
    obtain ⟨p, hp, hyear, hperiod, -⟩ := h date hdate
    exact ⟨p, hp, hyear, hperiod⟩
  · intro date hdate p hp
    obtain ⟨p', hp', hyear, hperiod, hcontains⟩ := h date hdate
    obtain rfl : p' = p := Option.some_injective _ (hp'.symm.trans hp)
    exact (hcontains date hdate).mpr ⟨hyear, hperiod⟩
  · intro date hdate date' hdate' p hp
    obtain ⟨q, hq, hyear, hperiod, hcontains⟩ := h date hdate
    obtain rfl : q = p := Option.some_injective _ (hq.symm.trans hp)
    rw [hcontains date' hdate']
    constructor
    · intro hsame
      obtain ⟨q', hq', hyear', hperiod', -⟩ := h date' hdate'
      obtain rfl : q' = q := Option.some_injective _ (hq'.symm.trans hsame)
      exact ⟨hyear', hperiod'⟩
    · rintro ⟨hyear', hperiod'⟩
      -- The period is made from the year and the number alone.
      rw [← hp, FiscalPeriod.from_calendar, FiscalPeriod.from_calendar, hyear, hperiod, hyear',
        hperiod']

end Labels

section Months

theorem calendarYear_ordersDates :
    OrdersDates .calendarYear (orderedDates .calendarYear) := by
  refine ⟨fun date _ => ⟨_, _, rfl, rfl⟩, ?_⟩
  intro date _ date' _ year period period' hle hyear hyear' hperiod hperiod'
  have hnumber := Date.monthNumber_mono hle
  rw [fiscal_year, Option.some.injEq] at hyear hyear'
  rw [fiscal_period, Option.some.injEq] at hperiod hperiod'
  rw [Date.monthNumber, Date.monthNumber, hyear, hyear', hperiod, hperiod'] at hnumber
  omega

theorem monthly_eq {year : ℤ} {month : ℕ} {start next last : Date}
    (hstart : from_ymd_opt year month 1 = some start)
    (hnext : (if month = 12 then from_ymd_opt (year + 1) 1 1
      else from_ymd_opt year (month + 1) 1) = some next)
    (hlast : next.pred? = some last) :
    FiscalPeriod.monthly year month =
      some ⟨year, month, start, last, .monthly, month = 12, .open⟩ := by
  rw [FiscalPeriod.monthly, hstart]
  split at hnext
  · next h => simp [h, hnext, hlast]
  · next h => simp [h, hnext, hlast]

theorem monthly_spec {date : Date} (hdate : date ∈ tiledDates .calendarYear) :
    ∃ p, FiscalPeriod.monthly date.year date.month = some p ∧ p.year = date.year ∧
      p.period = date.month ∧
      ∀ date', p.contains date' = true ↔ date'.monthNumber = date.monthNumber := by
  obtain ⟨hrange, hlast⟩ := hdate
  obtain ⟨hmonth, hlow, hhigh⟩ := date.month_spec
  have hyear := yearInRange_iff.mp hrange
  have hstart := from_ymd_opt_first hyear hmonth
  have hnext : (if date.month = 12 then from_ymd_opt (date.year + 1) 1 1
      else from_ymd_opt date.year (date.month + 1) 1) =
        some (monthStart (date.monthNumber + 1)) := by
    rw [Date.monthNumber]
    split
    · next hdecember =>
      rw [from_ymd_opt_first (by omega) (by omega), hdecember]
      congr 2
      omega
    · rw [from_ymd_opt_first hyear (by omega)]
      congr 2
      omega
  have hafter : Representable (monthStart (date.monthNumber + 1)) := by
    rw [representable_iff, monthNumber_monthStart, Date.monthNumber]
    omega
  refine ⟨⟨date.year, date.month, monthStart date.monthNumber,
    (monthStart (date.monthNumber + 1)).addDays (-1), .monthly, date.month = 12, .open⟩, ?_, rfl,
    rfl, ?_⟩
  · exact monthly_eq hstart hnext (pred?_eq hrange hafter hhigh)
  · intro date'
    rw [contains_iff rfl, monthNumber_eq_iff]

theorem calendarYear_tilesDates : TilesDates .calendarYear (tiledDates .calendarYear) := by
  apply tilesDates_of_labels
  intro date hdate
  obtain ⟨p, hp, hyear, hperiod, hcontains⟩ := monthly_spec hdate
  refine ⟨p, ?_, ?_, ?_, ?_⟩
  · rw [FiscalPeriod.from_calendar, fiscal_year, fiscal_period]
    exact hp
  · rw [fiscal_year, hyear]
  · rw [fiscal_period, hperiod]
  · intro date' _
    rw [hcontains, fiscal_year, fiscal_period, hyear, hperiod, Option.some.injEq,
      Option.some.injEq, Date.monthNumber, Date.monthNumber]
    have hmonth := date.month_spec.1
    have hmonth' := date'.month_spec.1
    omega

end Months

section CustomYears

variable {start_month start_day : ℕ}

theorem le_year_start_iff (hmonth : 1 ≤ start_month ∧ start_month ≤ 12) {year : ℤ}
    (hyear : -262143 ≤ year ∧ year ≤ 262142) {start : Date}
    (hstart : year_start year start_month start_day = some start) {date : Date}
    (hdate : date ∈ orderedDates (.customYearStart start_month start_day)) :
    start ≤ date ↔ year * 12 + start_month - 1 ≤ date.monthNumber := by
  obtain ⟨start', hstart', hnumber⟩ := exists_year_start hyear hmonth start_day
  obtain rfl : start' = start := Option.some_injective _ (hstart'.symm.trans hstart)
  obtain ⟨hdateMonth, hlow, hhigh⟩ := date.month_spec
  constructor
  · intro h
    rw [← hnumber]
    exact Date.monthNumber_mono h
  · intro h
    rcases h.lt_or_eq with hlt | heq
    · rw [← hnumber] at hlt
      have hfirst := lt_monthStart_iff.mpr (Int.lt_add_one_of_le le_rfl : start'.monthNumber < _)
      exact (hfirst.trans_le (monthStart_le_iff.mpr hlt)).le
    · rw [Date.monthNumber] at heq
      obtain rfl : date.year = year := by omega
      exact hdate.2 (by omega) start' hstart

/-- The dates before the first day of a year are those of the months before it. -/
theorem custom_labels (hmonth : 1 ≤ start_month ∧ start_month ≤ 12) {date : Date}
    (hdate : date ∈ orderedDates (.customYearStart start_month start_day)) :
    ∃ (year : ℤ) (period : ℕ),
      fiscal_year (.customYearStart start_month start_day) date = some year ∧
      fiscal_period (.customYearStart start_month start_day) date = some period ∧
      (1 ≤ period ∧ period ≤ 12) ∧
      date.monthNumber = year * 12 + start_month + period - 2 := by
  have hyear := yearInRange_iff.mp hdate.1
  obtain ⟨hdateMonth, -⟩ := date.month_spec
  obtain ⟨start, hstart, -⟩ := exists_year_start hyear hmonth start_day
  have hle := le_year_start_iff hmonth hyear hstart hdate
  rw [fiscal_year, fiscal_period, hstart]
  by_cases hafter : start_month ≤ date.month
  · have hstarted : start ≤ date := by
      rw [hle, Date.monthNumber]
      omega
    refine ⟨date.year, date.month - start_month + 1, ?_, ?_, by omega, ?_⟩
    · simp [hstarted]
    · rw [if_pos hafter, subU8, if_pos hafter]
      simp only [Option.bind_eq_bind, Option.bind_some]
      rw [addU8, if_pos (by omega)]
    · rw [Date.monthNumber]
      omega
  · have hstarted : ¬ start ≤ date := by
      rw [hle, Date.monthNumber]
      omega
    refine ⟨date.year - 1, 12 - start_month + date.month + 1, ?_, ?_, by omega, ?_⟩
    · simp [hstarted]
    · rw [if_neg hafter, subU8, if_pos hmonth.2]
      simp only [Option.bind_eq_bind, Option.bind_some]
      rw [addU8, if_pos (by omega), Option.bind_some, addU8, if_pos (by omega)]
    · rw [Date.monthNumber]
      omega

theorem custom_ordersDates (hmonth : 1 ≤ start_month ∧ start_month ≤ 12) :
    OrdersDates (.customYearStart start_month start_day)
      (orderedDates (.customYearStart start_month start_day)) := by
  constructor
  · intro date hdate
    obtain ⟨year, period, hyear, hperiod, -⟩ := custom_labels hmonth hdate
    exact ⟨year, period, hyear, hperiod⟩
  · intro date hdate date' hdate' year period period' hle hyear hyear' hperiod hperiod'
    have hnumber := Date.monthNumber_mono hle
    obtain ⟨y, n, hy, hn, -, hkey⟩ := custom_labels hmonth hdate
    obtain ⟨y', n', hy', hn', -, hkey'⟩ := custom_labels hmonth hdate'
    obtain rfl := Option.some_injective _ (hy.symm.trans hyear)
    obtain rfl := Option.some_injective _ (hy'.symm.trans hyear')
    obtain rfl := Option.some_injective _ (hn.symm.trans hperiod)
    obtain rfl := Option.some_injective _ (hn'.symm.trans hperiod')
    omega

theorem customPeriod_eq {fiscal_year year : ℤ} {period_num month : ℕ} {start next last : Date}
    (hmonths : 1 ≤ start_month + period_num ∧ start_month + period_num ≤ 255)
    (hmonth : (if start_month + period_num - 1 > 12 then start_month + period_num - 1 - 12
      else start_month + period_num - 1) = month)
    (hyear : (if start_month + period_num - 1 > 12 then fiscal_year + 1 else fiscal_year) = year)
    (hstart : (if period_num = 1 then year_start fiscal_year start_month start_day
      else from_ymd_opt year month 1) = some start)
    (hnext : (if period_num = 12 then year_start (fiscal_year + 1) start_month start_day
      else from_ymd_opt (if month = 12 then year + 1 else year)
        (if month = 12 then 1 else month + 1) 1) = some next)
    (hlast : next.pred? = some last) :
    customPeriod start_month start_day fiscal_year period_num =
      some ⟨fiscal_year, period_num, start, last, .monthly, period_num = 12, .open⟩ := by
  rw [customPeriod, addU8, if_pos hmonths.2]
  simp only [Option.bind_eq_bind, Option.bind_some]
  rw [subU8, if_pos hmonths.1, Option.bind_some, hmonth, hyear]
  split at hstart
  · next h =>
    rw [if_pos h, hstart, Option.bind_some]
    split at hnext
    · next h' => rw [if_pos h', hnext, Option.bind_some, hlast, Option.bind_some]; rfl
    · next h' => rw [if_neg h', hnext, Option.bind_some, hlast, Option.bind_some]; rfl
  · next h =>
    rw [if_neg h, hstart, Option.bind_some]
    split at hnext
    · next h' => rw [if_pos h', hnext, Option.bind_some, hlast, Option.bind_some]; rfl
    · next h' => rw [if_neg h', hnext, Option.bind_some, hlast, Option.bind_some]; rfl

/-- A period begins with a month, or with the configured day if it is the first of a year. -/
theorem exists_period_start (hmonth : 1 ≤ start_month ∧ start_month ≤ 12) (start_day : ℕ) {k : ℤ}
    (hrange : -262143 * 12 ≤ k ∧ k < 262143 * 12) (first : Prop) [Decidable first]
    (fiscal_year year : ℤ) (month : ℕ) (hfirst : first → fiscal_year * 12 + start_month - 1 = k)
    (hnumber : 1 ≤ month ∧ month ≤ 12) (hk : year * 12 + month - 1 = k) :
    ∃ start, (if first then year_start fiscal_year start_month start_day
        else from_ymd_opt year month 1) = some start ∧ start.monthNumber = k ∧
      ∀ date ∈ orderedDates (.customYearStart start_month start_day),
        start ≤ date ↔ k ≤ date.monthNumber := by
  by_cases h : first
  · have hyear : -262143 ≤ fiscal_year ∧ fiscal_year ≤ 262142 := by
      have hkey := hfirst h
      omega
    obtain ⟨start, hstart, hstartNumber⟩ := exists_year_start hyear hmonth start_day
    refine ⟨start, ?_, hstartNumber.trans (hfirst h), ?_⟩
    · rw [if_pos h, hstart]
    · intro date hdate
      rw [le_year_start_iff hmonth hyear hstart hdate, hfirst h]
  · refine ⟨monthStart k, ?_, monthNumber_monthStart k, fun date _ => monthStart_le_iff⟩
    rw [if_neg h, from_ymd_opt_first (by omega) hnumber, hk]

theorem customPeriod_spec (hmonth : 1 ≤ start_month ∧ start_month ≤ 12) {date : Date}
    (hdate : date ∈ tiledDates (.customYearStart start_month start_day)) {year : ℤ} {period : ℕ}
    (hperiod : 1 ≤ period ∧ period ≤ 12)
    (hkey : date.monthNumber = year * 12 + start_month + period - 2) :
    ∃ p, customPeriod start_month start_day year period = some p ∧ p.year = year ∧
      p.period = period ∧
      ∀ date' ∈ orderedDates (.customYearStart start_month start_day),
        p.contains date' = true ↔ date'.monthNumber = date.monthNumber := by
  obtain ⟨hordered, hlast⟩ := hdate
  have hrange := representable_iff.mp hordered.1
  have hnextRange : -262143 * 12 ≤ date.monthNumber + 1 ∧
      date.monthNumber + 1 < 262143 * 12 := by
    rw [Date.year_eq] at hlast
    have hmonthNumber := date.month_eq
    omega
  obtain ⟨month, hmonthEq⟩ : ∃ month : ℕ, (if start_month + period - 1 > 12 then
      start_month + period - 1 - 12 else start_month + period - 1) = month := ⟨_, rfl⟩
  obtain ⟨monthYear, hyearEq⟩ : ∃ monthYear : ℤ, (if start_month + period - 1 > 12 then
      year + 1 else year) = monthYear := ⟨_, rfl⟩
  have hnumber : (1 ≤ month ∧ month ≤ 12) ∧ monthYear * 12 + month - 1 = date.monthNumber := by
    split at hmonthEq <;> split at hyearEq <;> omega
  obtain ⟨start, hstart, -, hstartLe⟩ := exists_period_start hmonth start_day hrange (period = 1)
    year monthYear month (by omega) hnumber.1 hnumber.2
  obtain ⟨next, hnext, hnextNumber, hnextLe⟩ := exists_period_start hmonth start_day hnextRange
    (period = 12) (year + 1) (if month = 12 then monthYear + 1 else monthYear)
    (if month = 12 then 1 else month + 1) (by omega) (by split <;> omega) (by split <;> omega)
  have hlt : date < next := by
    rw [← not_le, hnextLe date hordered]
    omega
  have hnextRepresentable : Representable next := by
    rw [representable_iff, hnextNumber]
    exact hnextRange
  refine ⟨_, customPeriod_eq (by omega) hmonthEq hyearEq hstart hnext
    (pred?_eq hordered.1 hnextRepresentable hlt), rfl, rfl, ?_⟩
  intro date' hdate'
  rw [contains_iff rfl, hstartLe date' hdate', ← not_le, hnextLe date' hdate']
  omega

theorem custom_tilesDates (hmonth : 1 ≤ start_month ∧ start_month ≤ 12) :
    TilesDates (.customYearStart start_month start_day)
      (tiledDates (.customYearStart start_month start_day)) := by
  apply tilesDates_of_labels
  intro date hdate
  obtain ⟨year, period, hyear, hperiod, hbounds, hkey⟩ := custom_labels hmonth hdate.1
  obtain ⟨p, hp, hpyear, hpperiod, hcontains⟩ := customPeriod_spec hmonth hdate hbounds hkey
  refine ⟨p, ?_, ?_, ?_, ?_⟩
  · rw [FiscalPeriod.from_calendar, hyear, hperiod]
    exact hp
  · rw [hyear, hpyear]
  · rw [hperiod, hpperiod]
  · intro date' hdate'
    obtain ⟨year', period', hyear', hperiod', hbounds', hkey'⟩ := custom_labels hmonth hdate'.1
    rw [hcontains date' hdate'.1, hyear', hperiod', hpyear, hpperiod, Option.some.injEq,
      Option.some.injEq]
    omega

end CustomYears

section YearDays

theorem ordinal_spec (date : Date) :
    1 ≤ ordinal date ∧
      date.dayNumber = (monthStart (date.year * 12)).dayNumber + (ordinal date - 1) := by
  have hfirst : Date.ofYmd date.year 1 1 = monthStart (date.year * 12) := by
    rw [ofYmd_eq date.year (by omega) le_rfl]
    simp [Date.addDays]
  have hle : monthStart (date.year * 12) ≤ date := by
    rw [monthStart_le_iff, Date.monthNumber]
    have hmonth := date.month_spec.1
    omega
  have hdays : (monthStart (date.year * 12)).dayNumber ≤ date.dayNumber := hle
  rw [ordinal, hfirst]
  omega

theorem ordinal_mono {date date' : Date} (hyear : date.year = date'.year) (h : date ≤ date') :
    ordinal date ≤ ordinal date' := by
  have hdays : date.dayNumber ≤ date'.dayNumber := h
  have hspec := ordinal_spec date
  have hspec' := ordinal_spec date'
  rw [hyear] at hspec
  omega

/-- The first 365 days are in the year. -/
theorem year_addDays (year : ℤ) {n : ℤ} (hn : 0 ≤ n ∧ n < 365) :
    ((monthStart (year * 12)).addDays n).year = year := by
  have hlow : monthStart (year * 12) ≤ (monthStart (year * 12)).addDays n := by
    show (monthStart (year * 12)).dayNumber ≤ (monthStart (year * 12)).dayNumber + n
    omega
  rw [monthStart_le_iff] at hlow
  have hhigh := lt_monthStart_iff.mp (add_lt_monthStart year hn.2)
  rw [Date.year_eq]
  omega

theorem plusDays_eq {year : ℤ} (hyear : -262143 ≤ year ∧ year ≤ 262142) {a b : ℤ}
    (h : 0 ≤ a + b ∧ a + b < 365) :
    plusDays ((monthStart (year * 12)).addDays a) b =
      some ((monthStart (year * 12)).addDays (a + b)) := by
  have hsum : ((monthStart (year * 12)).addDays a).addDays b =
      (monthStart (year * 12)).addDays (a + b) :=
    congrArg Date.mk (add_assoc _ _ _)
  rw [plusDays, hsum, year_addDays year h, if_pos (yearInRange_iff.mpr hyear)]

/-- A period within the first 364 days of a year, by the days of the year. -/
theorem contains_addDays_iff {p : FiscalPeriod} {year a b : ℤ}
    (hstart : p.start_date = (monthStart (year * 12)).addDays a)
    (hend : p.end_date = (monthStart (year * 12)).addDays b) (ha : 0 ≤ a) (hb : b < 365)
    (date : Date) :
    p.contains date = true ↔ date.year = year ∧ a < ordinal date ∧ ordinal date ≤ b + 1 := by
  have hspec := ordinal_spec date
  have hcontains : p.contains date = true ↔
      (monthStart (year * 12)).dayNumber + a ≤ date.dayNumber ∧
        date.dayNumber ≤ (monthStart (year * 12)).dayNumber + b := by
    rw [FiscalPeriod.contains, hstart, hend, Bool.and_eq_true, decide_eq_true_eq,
      decide_eq_true_eq]
    exact Iff.rfl
  rw [hcontains]
  constructor
  · rintro ⟨hlow, hhigh⟩
    have hyear : date.year = year := by
      have hdate : date = (monthStart (year * 12)).addDays
          (date.dayNumber - (monthStart (year * 12)).dayNumber) :=
        Date.dayNumber_injective (by rw [Date.addDays]; dsimp only; omega)
      rw [hdate]
      apply year_addDays
      omega
    rw [hyear] at hspec
    refine ⟨hyear, ?_, ?_⟩ <;> omega
  · rintro ⟨rfl, hlow, hhigh⟩
    constructor <;> omega

end YearDays

section Weeks

/-- The weeks of the first periods of a year. -/
def weeksBefore (pattern : WeekPattern) (periods : ℕ) : ℕ :=
  ((List.replicate 4 pattern.weeks_per_period).flatten.take periods).sum

theorem weeksBefore_mono (pattern : WeekPattern) : Monotone (weeksBefore pattern) :=
  List.monotone_sum_take _

/-- The weeks of a period by its quarter and its place there. -/
theorem weeksBefore_eq (pattern : WeekPattern) {i : ℕ} (hi : i < 12) :
    i / 3 * pattern.weeks_per_period.sum + (pattern.weeks_per_period.take (i % 3)).sum =
        weeksBefore pattern i ∧
      weeksBefore pattern i + pattern.weeks_per_period.getD (i % 3) 0 =
        weeksBefore pattern (i + 1) ∧
      weeksBefore pattern i < weeksBefore pattern (i + 1) ∧
      weeksBefore pattern (i + 1) ≤ 52 := by
  revert i
  cases pattern <;> decide

/-- The loop stops at the period that the week is in. -/
theorem period_of_week_spec (week : ℕ) :
    ∀ (weeks : List ℕ) (cumulative period : ℕ), cumulative < week →
      week ≤ cumulative + weeks.sum →
      ∃ i < weeks.length, period_of_week week cumulative period weeks = period + i ∧
        cumulative + (weeks.take i).sum < week ∧ week ≤ cumulative + (weeks.take (i + 1)).sum := by
  intro weeks
  induction weeks with
  | nil =>
      intro cumulative period hlow hhigh
      simp only [List.sum_nil] at hhigh
      omega
  | cons period_weeks rest ih =>
      intro cumulative period hlow hhigh
      rw [period_of_week]
      by_cases hweek : week ≤ cumulative + period_weeks
      · rw [if_pos hweek]
        exact ⟨0, by simp, rfl, by simpa using hlow, by simpa using hweek⟩
      · rw [if_neg hweek]
        rw [List.sum_cons] at hhigh
        obtain ⟨i, hi, hperiod, hafter, hbefore⟩ :=
          ih (cumulative + period_weeks) (period + 1) (by omega) (by omega)
        refine ⟨i + 1, by simpa using hi, by omega, ?_, ?_⟩
        · simp only [List.take_succ_cons, List.sum_cons]
          omega
        · simp only [List.take_succ_cons, List.sum_cons]
          omega

theorem week_labels {pattern : WeekPattern} {date : Date}
    (hdate : date ∈ orderedDates (.fourFourFive pattern)) :
    ∃ i < 12, fiscal_period (.fourFourFive pattern) date = some (i + 1) ∧
      weeksBefore pattern i * 7 < ordinal date ∧
      ordinal date ≤ weeksBefore pattern (i + 1) * 7 := by
  obtain ⟨-, hordinal⟩ := hdate
  obtain ⟨hpos, -⟩ := ordinal_spec date
  have hlength : (List.replicate 4 pattern.weeks_per_period).flatten.length = 12 ∧
      (List.replicate 4 pattern.weeks_per_period).flatten.sum = 52 := by
    cases pattern <;> decide
  obtain ⟨i, hi, hperiod, hafter, hbefore⟩ := period_of_week_spec ((ordinal date - 1) / 7 + 1)
    (List.replicate 4 pattern.weeks_per_period).flatten 0 1 (by omega) (by omega)
  rw [Nat.zero_add] at hafter hbefore
  refine ⟨i, by omega, ?_, ?_, ?_⟩
  · rw [fiscal_period, Nat.mod_eq_of_lt (by omega), subU8, if_pos hpos]
    simp only [Option.bind_eq_bind, Option.bind_some, hperiod]
    rw [Nat.add_comm]
    rfl
  · rw [weeksBefore]
    omega
  · rw [weeksBefore]
    omega

/-- A later day of the year is not in an earlier period. -/
theorem period_le_of_ordinal_le {pattern : WeekPattern} {n n' i i' : ℕ} (h : n ≤ n')
    (hi : weeksBefore pattern i * 7 < n) (hi' : n' ≤ weeksBefore pattern (i' + 1) * 7) :
    i ≤ i' := by
  by_contra hlt
  have hmono := weeksBefore_mono pattern (Nat.succ_le_of_lt (not_le.mp hlt))
  dsimp only [Nat.succ_eq_add_one] at hmono
  omega

theorem fourFourFive_ordersDates (pattern : WeekPattern) :
    OrdersDates (.fourFourFive pattern) (orderedDates (.fourFourFive pattern)) := by
  constructor
  · intro date hdate
    obtain ⟨i, -, hperiod, -⟩ := week_labels hdate
    exact ⟨date.year, i + 1, rfl, hperiod⟩
  · intro date hdate date' hdate' year period period' hle hyear hyear' hperiod hperiod'
    obtain ⟨i, -, hi, hafter, -⟩ := week_labels hdate
    obtain ⟨i', -, hi', -, hbefore'⟩ := week_labels hdate'
    obtain rfl := Option.some_injective _ (hi.symm.trans hperiod)
    obtain rfl := Option.some_injective _ (hi'.symm.trans hperiod')
    rw [fiscal_year, Option.some.injEq] at hyear hyear'
    have hordinal := ordinal_mono (hyear.trans hyear'.symm) hle
    have hindex := period_le_of_ordinal_le hordinal hafter hbefore'
    omega

theorem weekPeriod_spec (pattern : WeekPattern) {year : ℤ}
    (hyear : -262143 ≤ year ∧ year ≤ 262142) {i : ℕ} (hi : i < 12) :
    ∃ p, weekPeriod pattern year (i + 1) = some p ∧ p.year = year ∧ p.period = i + 1 ∧
      ∀ date, p.contains date = true ↔ date.year = year ∧
        weeksBefore pattern i * 7 < ordinal date ∧
        ordinal date ≤ weeksBefore pattern (i + 1) * 7 := by
  obtain ⟨hbefore, hlength, hpositive, hlast⟩ := weeksBefore_eq pattern hi
  have hstart : from_ymd_opt year 1 1 = some ((monthStart (year * 12)).addDays 0) := by
    rw [from_ymd_opt_first hyear (by omega)]
    simp [Date.addDays]
  have hfirst : plusDays ((monthStart (year * 12)).addDays 0) ((weeksBefore pattern i : ℤ) * 7) =
      some ((monthStart (year * 12)).addDays (weeksBefore pattern i * 7)) := by
    rw [plusDays_eq hyear (by omega), zero_add]
  have hnext : plusDays ((monthStart (year * 12)).addDays (weeksBefore pattern i * 7))
      (pattern.weeks_per_period.getD (i % 3) 0 * 7) =
      some ((monthStart (year * 12)).addDays (weeksBefore pattern (i + 1) * 7)) := by
    rw [plusDays_eq hyear (by omega), ← hlength]
    push_cast
    rw [add_mul]
  have hend : plusDays ((monthStart (year * 12)).addDays (weeksBefore pattern (i + 1) * 7)) (-1) =
      some ((monthStart (year * 12)).addDays (weeksBefore pattern (i + 1) * 7 + -1)) := by
    apply plusDays_eq hyear
    omega
  refine ⟨⟨year, i + 1, (monthStart (year * 12)).addDays (weeksBefore pattern i * 7),
    (monthStart (year * 12)).addDays (weeksBefore pattern (i + 1) * 7 + -1), .fourWeek,
    i + 1 = 12, .open⟩, ?_, rfl, rfl, ?_⟩
  · rw [weekPeriod, subU8, if_pos (by omega), Nat.add_sub_cancel]
    simp only [Option.bind_eq_bind, Option.bind_some, hstart]
    rw [hbefore, hfirst, Option.bind_some, hnext, Option.bind_some, hend]
    rfl
  · intro date
    rw [contains_addDays_iff rfl rfl (by omega) (by omega)]
    omega

theorem fourFourFive_tilesDates (pattern : WeekPattern) :
    TilesDates (.fourFourFive pattern) (tiledDates (.fourFourFive pattern)) := by
  apply tilesDates_of_labels
  intro date hdate
  obtain ⟨i, hi, hperiod, hafter, hbefore⟩ := week_labels hdate
  obtain ⟨p, hp, hpyear, hpperiod, hcontains⟩ :=
    weekPeriod_spec pattern (yearInRange_iff.mp hdate.1) hi
  refine ⟨p, ?_, ?_, ?_, ?_⟩
  · rw [FiscalPeriod.from_calendar, fiscal_year, hperiod]
    exact hp
  · rw [fiscal_year, hpyear]
  · rw [hperiod, hpperiod]
  · intro date' hdate'
    obtain ⟨i', -, hperiod', hafter', hbefore'⟩ := week_labels hdate'
    rw [hcontains, fiscal_year, hperiod', hpyear, hpperiod, Option.some.injEq, Option.some.injEq]
    constructor
    · rintro ⟨hyear, hlow, hhigh⟩
      have hle := period_le_of_ordinal_le le_rfl hlow hbefore'
      have hge := period_le_of_ordinal_le le_rfl hafter' hhigh
      exact ⟨hyear, by omega⟩
    · rintro ⟨hyear, hindex⟩
      obtain rfl : i' = i := by omega
      exact ⟨hyear, hafter', hbefore'⟩

end Weeks

section ThirteenPeriods

theorem thirteenPeriod_ordersDates :
    OrdersDates .thirteenPeriod (orderedDates .thirteenPeriod) := by
  refine ⟨fun date _ => ⟨_, _, rfl, rfl⟩, ?_⟩
  intro date _ date' _ year period period' hle hyear hyear' hperiod hperiod'
  rw [fiscal_year, Option.some.injEq] at hyear hyear'
  rw [fiscal_period, Option.some.injEq] at hperiod hperiod'
  have hordinal := ordinal_mono (hyear.trans hyear'.symm) hle
  omega

theorem fourWeekPeriod_spec {year : ℤ} (hyear : -262143 ≤ year ∧ year ≤ 262142) {period : ℕ}
    (hperiod : 1 ≤ period ∧ period ≤ 13) :
    ∃ p, fourWeekPeriod year period = some p ∧ p.year = year ∧ p.period = period ∧
      p.end_date = (monthStart (year * 12)).addDays ((period - 1) * 28 + 27) ∧
      ∀ date, p.contains date = true ↔ date.year = year ∧
        ((period : ℤ) - 1) * 28 < ordinal date ∧ ordinal date ≤ (period : ℤ) * 28 := by
  have hstart : from_ymd_opt year 1 1 = some ((monthStart (year * 12)).addDays 0) := by
    rw [from_ymd_opt_first hyear (by omega)]
    simp [Date.addDays]
  have hfirst : plusDays ((monthStart (year * 12)).addDays 0) (((period : ℤ) - 1) * 28) =
      some ((monthStart (year * 12)).addDays ((period - 1) * 28)) := by
    rw [plusDays_eq hyear (by omega), zero_add]
  have hlast : plusDays ((monthStart (year * 12)).addDays ((period - 1) * 28)) 27 =
      some ((monthStart (year * 12)).addDays ((period - 1) * 28 + 27)) :=
    plusDays_eq hyear (by omega)
  refine ⟨⟨year, period, (monthStart (year * 12)).addDays ((period - 1) * 28),
    (monthStart (year * 12)).addDays ((period - 1) * 28 + 27), .fourWeek, period = 13, .open⟩,
    ?_, rfl, rfl, rfl, ?_⟩
  · rw [fourWeekPeriod, hstart]
    simp only [Option.bind_eq_bind, Option.bind_some, hfirst, hlast]
    rfl
  · intro date
    rw [contains_addDays_iff rfl rfl (by omega) (by omega)]
    omega

theorem thirteenPeriod_tilesDates : TilesDates .thirteenPeriod (tiledDates .thirteenPeriod) := by
  apply tilesDates_of_labels
  rintro date ⟨hrange, hordinal⟩
  have hpositive := (ordinal_spec date).1
  obtain ⟨p, hp, hpyear, hpperiod, -, hcontains⟩ :=
    fourWeekPeriod_spec (yearInRange_iff.mp hrange)
      (by omega : 1 ≤ min ((ordinal date - 1) / 28 + 1) 13 ∧
        min ((ordinal date - 1) / 28 + 1) 13 ≤ 13)
  refine ⟨p, ?_, ?_, ?_, ?_⟩
  · rw [FiscalPeriod.from_calendar, fiscal_year, fiscal_period]
    exact hp
  · rw [fiscal_year, hpyear]
  · rw [fiscal_period, hpperiod]
  · rintro date' ⟨-, hordinal'⟩
    have hpositive' := (ordinal_spec date').1
    rw [hcontains, fiscal_year, fiscal_period, hpyear, hpperiod, Option.some.injEq,
      Option.some.injEq]
    omega

/-- The days of a year after the last of the thirteen periods are counted to that period. -/
theorem thirteenPeriod_of_lt {date : Date} (hrange : Representable date)
    (hordinal : 364 < ordinal date) :
    ∃ p, FiscalPeriod.from_calendar .thirteenPeriod date = some p ∧ p.year = date.year ∧
      p.period = 13 ∧ p.end_date < date := by
  obtain ⟨p, hp, hpyear, hpperiod, hend, -⟩ :=
    fourWeekPeriod_spec (yearInRange_iff.mp hrange) (by omega : 1 ≤ 13 ∧ 13 ≤ 13)
  refine ⟨p, ?_, hpyear, hpperiod, ?_⟩
  · rw [FiscalPeriod.from_calendar, fiscal_year, fiscal_period]
    have hthirteen : min ((ordinal date - 1) / 28 + 1) 13 = 13 := by omega
    simp only [Option.bind_eq_bind, Option.bind_some, hthirteen]
    exact hp
  · have hspec := (ordinal_spec date).2
    rw [hend]
    show (monthStart (date.year * 12)).dayNumber + _ < date.dayNumber
    omega

end ThirteenPeriods

section LastMonth

theorem from_ymd_opt_none {year : ℤ} (hyear : 262142 < year) (month day : ℕ) :
    from_ymd_opt year month day = none := by
  rw [from_ymd_opt, if_neg]
  rintro ⟨hrange, -⟩
  rw [yearInRange_iff] at hrange
  omega

theorem monthly_last : FiscalPeriod.monthly 262142 12 = none := by
  have hnext : from_ymd_opt (262142 + 1) 1 1 = none := from_ymd_opt_none (by omega) 1 1
  rw [FiscalPeriod.monthly]
  simp only [if_true, hnext, Option.bind_eq_bind, Option.bind_none, Option.bind_fun_none]

theorem customPeriod_none {start_month start_day period_num : ℕ} {fiscal_year : ℤ}
    (hmonths : 1 ≤ start_month + period_num ∧ start_month + period_num ≤ 255)
    (hnext : ∀ month year, (if start_month + period_num - 1 > 12 then
        start_month + period_num - 1 - 12 else start_month + period_num - 1) = month →
      (if start_month + period_num - 1 > 12 then fiscal_year + 1 else fiscal_year) = year →
      (if period_num = 12 then year_start (fiscal_year + 1) start_month start_day
        else from_ymd_opt (if month = 12 then year + 1 else year)
          (if month = 12 then 1 else month + 1) 1) = none) :
    customPeriod start_month start_day fiscal_year period_num = none := by
  have hnone := hnext _ _ rfl rfl
  rw [customPeriod, addU8, if_pos hmonths.2]
  simp only [Option.bind_eq_bind, Option.bind_some]
  rw [subU8, if_pos hmonths.1, Option.bind_some]
  split at hnone
  · next h => simp only [h, hnone, if_true, Option.bind_none, Option.bind_fun_none, ite_self]
  · next h => simp only [h, hnone, if_false, Option.bind_none, Option.bind_fun_none, ite_self]

theorem custom_last {start_month start_day : ℕ} (hmonth : 1 ≤ start_month ∧ start_month ≤ 12)
    {date : Date} (hdate : date ∈ orderedDates (.customYearStart start_month start_day))
    (hlast : date.year = 262142 ∧ date.month = 12) :
    FiscalPeriod.from_calendar (.customYearStart start_month start_day) date = none := by
  obtain ⟨year, period, hyear, hperiod, hbounds, hkey⟩ := custom_labels hmonth hdate
  rw [FiscalPeriod.from_calendar, hyear, hperiod]
  rw [Date.monthNumber, hlast.1, hlast.2] at hkey
  apply customPeriod_none (by omega)
  intro month monthYear hmonthEq hyearEq
  have hnumber : month = 12 ∧ monthYear = 262142 := by
    split at hmonthEq <;> split at hyearEq <;> omega
  rw [hnumber.1, hnumber.2, if_pos rfl, if_pos rfl, from_ymd_opt_none (by omega)]
  split
  · rw [year_start, from_ymd_opt_none (by omega), from_ymd_opt_none (by omega)]
    rfl
  · rfl

end LastMonth

section Calendars

/-- Every calendar orders and tiles the dates; the dates left over are the last month of all and
the days after the last of thirteen periods. -/
theorem tiles_calendar {calendar_type : FiscalCalendarType} (hvalid : Valid calendar_type) :
    OrdersDates calendar_type (orderedDates calendar_type) ∧
      TilesDates calendar_type (tiledDates calendar_type) ∧
      ∀ date ∈ orderedDates calendar_type, date ∉ tiledDates calendar_type →
        (date.year = 262142 ∧ date.month = 12 ∧
          FiscalPeriod.from_calendar calendar_type date = none) ∨
        (calendar_type = .thirteenPeriod ∧ 364 < ordinal date ∧
          ∃ p, FiscalPeriod.from_calendar calendar_type date = some p ∧ p.year = date.year ∧
            p.period = 13 ∧ p.end_date < date) := by
  cases calendar_type with
  | calendarYear =>
      refine ⟨calendarYear_ordersDates, calendarYear_tilesDates, ?_⟩
      intro date hdate hrest
      have hlast : date.year = 262142 ∧ date.month = 12 := by
        by_contra h
        exact hrest ⟨hdate, h⟩
      refine Or.inl ⟨hlast.1, hlast.2, ?_⟩
      rw [FiscalPeriod.from_calendar, fiscal_year, fiscal_period, hlast.1, hlast.2]
      exact monthly_last
  | customYearStart start_month start_day =>
      refine ⟨custom_ordersDates hvalid.1, custom_tilesDates hvalid.1, ?_⟩
      intro date hdate hrest
      have hlast : date.year = 262142 ∧ date.month = 12 := by
        by_contra h
        exact hrest ⟨hdate, h⟩
      exact Or.inl ⟨hlast.1, hlast.2, custom_last hvalid.1 hdate hlast⟩
  | fourFourFive pattern =>
      refine ⟨fourFourFive_ordersDates pattern, fourFourFive_tilesDates pattern, ?_⟩
      intro date hdate hrest
      exact absurd hdate hrest
  | thirteenPeriod =>
      refine ⟨thirteenPeriod_ordersDates, thirteenPeriod_tilesDates, ?_⟩
      intro date hdate hrest
      have hordinal : 364 < ordinal date := by
        by_contra h
        exact hrest ⟨hdate, not_lt.mp h⟩
      exact Or.inr ⟨rfl, hordinal, thirteenPeriod_of_lt hdate hordinal⟩

theorem tiles_calendar_leap_day :
    ∃ p, FiscalPeriod.from_calendar (.customYearStart 7 1) (Date.ofYmd 2024 2 29) = some p ∧
      p.contains (Date.ofYmd 2024 2 29) = true := by
  have hvalid : Valid (.customYearStart 7 1) := by
    constructor <;> decide
  have hdate : Date.ofYmd 2024 2 29 ∈ tiledDates (.customYearStart 7 1) := by
    refine ⟨⟨by unfold Representable; decide, ?_⟩, by decide⟩
    intro hmonth
    exact absurd hmonth (by decide)
  obtain ⟨-, htiles, -⟩ := tiles_calendar hvalid
  obtain ⟨p, hp, -⟩ := htiles.computed _ hdate
  exact ⟨p, hp, htiles.contains _ hdate p hp⟩

def TilesEveryDate : Prop :=
  ∀ calendar_type, Valid calendar_type →
    OrdersDates calendar_type {date | Representable date} ∧
      TilesDates calendar_type {date | Representable date}

/-- The last day of a year of 365 days. -/
theorem not_tilesEveryDate :
    (∃ p, FiscalPeriod.from_calendar .thirteenPeriod (Date.ofYmd 2023 12 31) = some p ∧
      p.contains (Date.ofYmd 2023 12 31) = false) ∧
    ¬ TilesEveryDate := by
  have hlast : ∃ p, FiscalPeriod.from_calendar .thirteenPeriod (Date.ofYmd 2023 12 31) = some p ∧
      p.contains (Date.ofYmd 2023 12 31) = false := ⟨_, rfl, by decide⟩
  refine ⟨hlast, ?_⟩
  intro h
  obtain ⟨p, hp, hfalse⟩ := hlast
  have htrue := (h .thirteenPeriod trivial).2.contains (Date.ofYmd 2023 12 31)
    (by show Representable _; unfold Representable; decide) p hp
  rw [hfalse] at htrue
  exact Bool.false_ne_true htrue

end Calendars

end Datasynth.Core.FiscalPeriods
