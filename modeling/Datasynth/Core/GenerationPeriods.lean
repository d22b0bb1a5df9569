import Mathlib.Data.String.Basic
import Mathlib.Algebra.Ring.Rat
import Mathlib.Tactic.Ring
import Datasynth.Core.FiscalPeriods
import Datasynth.Lib.SortedEntries

/-!
The periods of a generation session, with the months of the calendar added as the source adds
them, and the state that is carried from one period to the next.  Where the source panics there
is no result.  Wall-clock durations are left out.
-/

namespace Datasynth.Core.GenerationPeriods

open Datasynth.Lib.CivilCalendar
open Datasynth.Lib.SortedEntries
open Datasynth.Core.FiscalCalendars
open Datasynth.Core.FiscalPeriods

section Months

def last_day_of_month (year : ℤ) (month : ℕ) : Option ℕ :=
  if month = 12 then some 31
  else do
    let next ← from_ymd_opt year (month + 1) 1
    let last ← next.pred?
    return last.day

/-- The division truncates; a negative remainder is no number of a month. -/
def add_months (date : Date) (months : ℕ) : Option Date :=
  let total_months := date.year * 12 + (date.month - 1 : ℤ) + months
  let target_year := total_months.tdiv 12
  if total_months.tmod 12 < 0 then none
  else do
    let target_month := (total_months.tmod 12).toNat + 1
    let max_day ← last_day_of_month target_year target_month
    from_ymd_opt target_year target_month (min date.day max_day)

end Months

section Periods

structure GenerationPeriod where
  index : ℕ
  label : String
  start_date : Date
  end_date : Date
  months : ℕ
deriving DecidableEq, Repr

def yearLabel (year : ℤ) : String := "FY" ++ toString year

/-- The loop over the remaining months; each pass takes at least one of them. -/
def periodLoop (fiscal_year_months : ℕ) :
    ℕ → ℕ → Date → ℕ → Option (List GenerationPeriod)
  | 0, _, _, _ => some []
  | fuel + 1, remaining, cursor, index =>
      if remaining = 0 then some []
      else do
        let months := min remaining fiscal_year_months
        let next ← add_months cursor months
        let end_date ← next.pred?
        let rest ← periodLoop fiscal_year_months fuel (remaining - months) next (index + 1)
        return ⟨index, yearLabel cursor.year, cursor, end_date, months⟩ :: rest

def GenerationPeriod.compute_periods (start_date : Date) (total_months fiscal_year_months : ℕ) :
    Option (List GenerationPeriod) :=
  if fiscal_year_months = 0 ∨ total_months = 0 then none
  else periodLoop fiscal_year_months total_months total_months start_date 0

end Periods

section States

/-- The balances by account; the sums over them are exact, so their order does not matter. -/
structure BalanceState where
  gl_balances : OrderedMap String ℚ
  ar_total : ℚ
  ap_total : ℚ
  retained_earnings : ℚ

def BalanceState.default : BalanceState := ⟨.empty, 0, 0, 0⟩

structure DocumentIdState where
  next_po_number : ℕ
  next_so_number : ℕ
  next_je_number : ℕ
  next_invoice_number : ℕ
  next_payment_number : ℕ
  next_gr_number : ℕ
deriving DecidableEq

def DocumentIdState.default : DocumentIdState := ⟨0, 0, 0, 0, 0, 0⟩

structure PeriodLog where
  period_label : String
  journal_entries : ℕ
  documents : ℕ
  anomalies : ℕ
deriving DecidableEq

structure SessionState where
  rng_seed : ℕ
  period_cursor : ℕ
  balance_state : BalanceState
  document_id_state : DocumentIdState
  generation_log : List PeriodLog
  config_hash : String

def SessionState.new (rng_seed : ℕ) (config_hash : String) : SessionState :=
  ⟨rng_seed, 0, .default, .default, [], config_hash⟩

end States

section MonthArithmetic

/-- The months that the sum of a date and a number of months can have. -/
def InCalendar (k : ℤ) : Prop := (0 ≤ k ∨ k % 12 = 0) ∧ k < 262143 * 12

instance (k : ℤ) : Decidable (InCalendar k) := inferInstanceAs (Decidable (_ ∧ _))

theorem last_day_of_month_eq {year : ℤ} (hyear : -262143 ≤ year ∧ year ≤ 262142) {month : ℕ}
    (hmonth : 1 ≤ month ∧ month ≤ 12) :
    last_day_of_month year month = some (daysInMonth year month) := by
  by_cases hlast : month = 12
  · rw [last_day_of_month, if_pos hlast, hlast]
    rfl
  · have hdays := le_daysInMonth year month
    have hnext : year * 12 + ((month + 1 : ℕ) : ℤ) - 1 = year * 12 + month := by omega
    have hfirst : Representable (monthStart (year * 12 + month - 1)) := by
      rw [representable_iff, monthNumber_monthStart]
      omega
    have hsecond : Representable (monthStart (year * 12 + month)) := by
      rw [representable_iff, monthNumber_monthStart]
      omega
    have hlt : monthStart (year * 12 + month - 1) < monthStart (year * 12 + month) :=
      monthStart_strictMono (by omega)
    have hend : (monthStart (year * 12 + month)).addDays (-1) =
        Date.ofYmd year month (daysInMonth year month) := by
      rw [monthStart_succ year hmonth, ofYmd_eq year hmonth (by omega)]
      apply Date.dayNumber_injective
      show _ + _ + -1 = _ + _
      omega
    rw [last_day_of_month, if_neg hlast, from_ymd_opt_first hyear ⟨by omega, by omega⟩, hnext]
    show ((monthStart (year * 12 + month)).pred?).bind (fun last => some last.day) = _
    rw [pred?_eq hfirst hsecond hlt, Option.bind_some, hend,
      day_ofYmd year hmonth ⟨by omega, le_rfl⟩]

theorem add_months_eq {date : Date} (hdate : Representable date) (months : ℕ) :
    (InCalendar (date.monthNumber + months) ∧
        ∃ next, add_months date months = some next ∧ Representable next ∧
          next.monthNumber = date.monthNumber + months ∧
          next.day = min date.day (daysInMonth next.year next.month)) ∨
      (¬ InCalendar (date.monthNumber + months) ∧ add_months date months = none) := by
  rw [representable_iff] at hdate
  have htotal : date.year * 12 + ((date.month : ℤ) - 1) + months = date.monthNumber + months := by
    rw [Date.monthNumber]
    ring
  have hlow : -262143 * 12 ≤ date.monthNumber + months := by omega
  rw [add_months, htotal]
  generalize date.monthNumber + months = k at hlow
  dsimp only
  by_cases hwhole : 0 ≤ k ∨ k % 12 = 0
  · have hdiv : k.tdiv 12 = k / 12 := by
      rcases hwhole with h | h
      · exact Int.tdiv_eq_ediv_of_nonneg h
      · exact Int.tdiv_eq_ediv_of_dvd (Int.dvd_of_emod_eq_zero h)
    have hmod : k.tmod 12 = k % 12 := by
      rw [Int.tmod_def, hdiv]
      omega
    rw [hdiv, hmod, if_neg (by omega)]
    have hmonth : 1 ≤ (k % 12).toNat + 1 ∧ (k % 12).toNat + 1 ≤ 12 := by omega
    by_cases hhigh : k < 262143 * 12
    · have hyear : -262143 ≤ k / 12 ∧ k / 12 ≤ 262142 := by omega
      have hdays := le_daysInMonth (k / 12) ((k % 12).toNat + 1)
      obtain ⟨hone, -⟩ := date.day_spec
      have hday : 1 ≤ min date.day (daysInMonth (k / 12) ((k % 12).toNat + 1)) ∧
          min date.day (daysInMonth (k / 12) ((k % 12).toNat + 1)) ≤
            daysInMonth (k / 12) ((k % 12).toNat + 1) := by
        omega
      have hnumber := monthNumber_ofYmd (k / 12) hmonth hday
      have hsame : k / 12 * 12 + ((k % 12).toNat + 1 : ℕ) - 1 = k := by omega
      rw [hsame] at hnumber
      have hparts := Date.year_eq (Date.ofYmd (k / 12) ((k % 12).toNat + 1)
        (min date.day (daysInMonth (k / 12) ((k % 12).toNat + 1))))
      have hparts' := Date.month_eq (Date.ofYmd (k / 12) ((k % 12).toNat + 1)
        (min date.day (daysInMonth (k / 12) ((k % 12).toNat + 1))))
      rw [hnumber] at hparts hparts'
      refine .inl ⟨⟨hwhole, hhigh⟩, _, ?_, ?_, hnumber, ?_⟩
      · rw [last_day_of_month_eq hyear hmonth]
        exact if_pos ⟨yearInRange_iff.mpr hyear, hmonth, hday⟩
      · rw [representable_iff, hnumber]
        omega
      · have hmonth' : (Date.ofYmd (k / 12) ((k % 12).toNat + 1)
            (min date.day (daysInMonth (k / 12) ((k % 12).toNat + 1)))).month =
              (k % 12).toNat + 1 := by
          omega
        rw [hparts, hmonth', day_ofYmd _ hmonth hday]
    · refine .inr ⟨fun h => hhigh h.2, ?_⟩
      have hnone : ∀ day, from_ymd_opt (k / 12) ((k % 12).toNat + 1) day = none := by
        intro day
        apply if_neg
        rintro ⟨hyear, -⟩
        rw [yearInRange_iff] at hyear
        omega
      show (last_day_of_month _ _).bind _ = none
      simp only [hnone]
      exact Option.bind_fun_none _
  · refine .inr ⟨fun h => hwhole h.1, ?_⟩
    have hneg : k.tmod 12 < 0 := by
      have hunique := (Int.tdiv_tmod_unique' (show k ≤ 0 by omega) (show (12 : ℤ) ≠ 0 by omega)).mp
        ⟨rfl, rfl⟩
      omega
    rw [if_pos hneg]

end MonthArithmetic

end Datasynth.Core.GenerationPeriods
