import Datasynth.Lib.CivilCalendar
import Mathlib.Algebra.GroupWithZero.Nat
import Mathlib.Algebra.Order.Ring.Unbundled.Rat

/-!
Fiscal calendars, the fiscal year and period of a date, and the dates of a fiscal period.  Where
the source panics, also by an overflow of an 8-bit number, there is no result.
-/

namespace Datasynth.Core.FiscalCalendars

open Datasynth.Lib.CivilCalendar

section Arithmetic

def addU8 (a b : ℕ) : Option ℕ := if a + b ≤ 255 then some (a + b) else none

def subU8 (a b : ℕ) : Option ℕ := if b ≤ a then some (a - b) else none

def from_ymd_opt (year : ℤ) (month day : ℕ) : Option Date :=
  if yearInRange year ∧ (1 ≤ month ∧ month ≤ 12) ∧ 1 ≤ day ∧ day ≤ daysInMonth year month then
    some (Date.ofYmd year month day)
  else none

/-- The sum of a date and a number of days, unless the calendar ends before it. -/
def plusDays (date : Date) (days : ℤ) : Option Date :=
  if yearInRange (date.addDays days).year then some (date.addDays days) else none

/-- The number of the day in its year, from 1. -/
def ordinal (date : Date) : ℕ :=
  (date.dayNumber - (Date.ofYmd date.year 1 1).dayNumber).toNat + 1

end Arithmetic

section Calendars

inductive WeekPattern where
  | fourFourFive
  | fourFiveFour
  | fiveFourFour
deriving DecidableEq, Repr

def WeekPattern.weeks_per_period : WeekPattern → List ℕ
  | fourFourFive => [4, 4, 5]
  | fourFiveFour => [4, 5, 4]
  | fiveFourFour => [5, 4, 4]

inductive FiscalCalendarType where
  | calendarYear
  | customYearStart (start_month start_day : ℕ)
  | fourFourFive (pattern : WeekPattern)
  | thirteenPeriod
deriving DecidableEq, Repr

/-- The configured first day of a year, or the first of the month if the month has no such day. -/
def year_start (year : ℤ) (start_month start_day : ℕ) : Option Date :=
  (from_ymd_opt year start_month start_day).orElse fun _ => from_ymd_opt year start_month 1

def fiscal_year (calendar_type : FiscalCalendarType) (date : Date) : Option ℤ :=
  match calendar_type with
  | .calendarYear => some date.year
  | .customYearStart start_month start_day => do
      let year_start ← year_start date.year start_month start_day
      return if year_start ≤ date then date.year else date.year - 1
  | .fourFourFive _ | .thirteenPeriod => some date.year

/-- The loop over the weeks of the periods; `cumulative` weeks are in the periods before
`period`. -/
def period_of_week (week_of_year : ℕ) (cumulative period : ℕ) : List ℕ → ℕ
  | [] => 12
  | period_weeks :: rest =>
      if week_of_year ≤ cumulative + period_weeks then period
      else period_of_week week_of_year (cumulative + period_weeks) (period + 1) rest

def fiscal_period (calendar_type : FiscalCalendarType) (date : Date) : Option ℕ :=
  match calendar_type with
  | .calendarYear => some date.month
  | .customYearStart start_month _ =>
      if start_month ≤ date.month then do addU8 (← subU8 date.month start_month) 1
      else do addU8 (← addU8 (← subU8 12 start_month) date.month) 1
  | .thirteenPeriod => some (min ((ordinal date - 1) / 28 + 1) 13)
  | .fourFourFive pattern => do
      -- The number of the day is first cut to 8 bits.
      let week_of_year := (← subU8 (ordinal date % 256) 1) / 7 + 1
      return period_of_week week_of_year 0 1 (List.replicate 4 pattern.weeks_per_period).flatten

end Calendars

section Periods

inductive FiscalPeriodType where
  | monthly
  | quarterly
  | fourWeek
  | special
deriving DecidableEq, Repr

inductive PeriodStatus where
  | open
  | softClosed
  | closed
  | locked
deriving DecidableEq, Repr

structure FiscalPeriod where
  year : ℤ
  period : ℕ
  start_date : Date
  end_date : Date
  period_type : FiscalPeriodType
  is_year_end : Bool
  status : PeriodStatus
deriving DecidableEq, Repr

def FiscalPeriod.contains (p : FiscalPeriod) (date : Date) : Bool :=
  p.start_date ≤ date && date ≤ p.end_date

def FiscalPeriod.monthly (year : ℤ) (month : ℕ) : Option FiscalPeriod := do
  let start_date ← from_ymd_opt year month 1
  let next ← if month = 12 then from_ymd_opt (year + 1) 1 1 else from_ymd_opt year (month + 1) 1
  let end_date ← next.pred?
  return ⟨year, month, start_date, end_date, .monthly, month = 12, .open⟩

/-- The period of a calendar whose year starts on a configured day. -/
def customPeriod (start_month start_day : ℕ) (fiscal_year : ℤ) (period_num : ℕ) :
    Option FiscalPeriod := do
  let last ← subU8 (← addU8 start_month period_num) 1
  let period_start_month := if last > 12 then last - 12 else last
  let period_year := if last > 12 then fiscal_year + 1 else fiscal_year
  let start_date ← if period_num = 1 then year_start fiscal_year start_month start_day
    else from_ymd_opt period_year period_start_month 1
  let next_month := if period_start_month = 12 then 1 else period_start_month + 1
  let next_year := if period_start_month = 12 then period_year + 1 else period_year
  let next ← if period_num = 12 then year_start (fiscal_year + 1) start_month start_day
    else from_ymd_opt next_year next_month 1
  let end_date ← next.pred?
  return ⟨fiscal_year, period_num, start_date, end_date, .monthly, period_num = 12, .open⟩

/-- The period of a calendar of quarters with the weeks of the pattern. -/
def weekPeriod (pattern : WeekPattern) (fiscal_year : ℤ) (period_num : ℕ) :
    Option FiscalPeriod := do
  let weeks := pattern.weeks_per_period
  let quarter := (← subU8 period_num 1) / 3
  let period_in_quarter := (← subU8 period_num 1) % 3
  let year_start ← from_ymd_opt fiscal_year 1 1
  let weeks_before := quarter * weeks.sum + (weeks.take period_in_quarter).sum
  let start_date ← plusDays year_start (weeks_before * 7)
  let next ← plusDays start_date (weeks.getD period_in_quarter 0 * 7)
  let end_date ← plusDays next (-1)
  return ⟨fiscal_year, period_num, start_date, end_date, .fourWeek, period_num = 12, .open⟩

def fourWeekPeriod (fiscal_year : ℤ) (period_num : ℕ) : Option FiscalPeriod := do
  let year_start ← from_ymd_opt fiscal_year 1 1
  let start_date ← plusDays year_start ((period_num - 1 : ℤ) * 28)
  let end_date ← plusDays start_date 27
  return ⟨fiscal_year, period_num, start_date, end_date, .fourWeek, period_num = 13, .open⟩

def FiscalPeriod.from_calendar (calendar_type : FiscalCalendarType) (date : Date) :
    Option FiscalPeriod := do
  let fiscal_year ← fiscal_year calendar_type date
  let period_num ← fiscal_period calendar_type date
  match calendar_type with
  | .calendarYear => FiscalPeriod.monthly fiscal_year period_num
  | .customYearStart start_month start_day =>
      customPeriod start_month start_day fiscal_year period_num
  | .fourFourFive pattern => weekPeriod pattern fiscal_year period_num
  | .thirteenPeriod => fourWeekPeriod fiscal_year period_num

end Periods

end Datasynth.Core.FiscalCalendars

/-! The tasks of a period close, their schedule and what a close records of them. -/

namespace Datasynth.Core.CloseSchedules

open Datasynth.Lib.CivilCalendar
open Datasynth.Core.FiscalCalendars

inductive CloseTask where
  | runDepreciation
  | postInventoryRevaluation
  | reconcileArToGl
  | reconcileApToGl
  | reconcileFaToGl
  | reconcileInventoryToGl
  | postAccruedExpenses
  | postAccruedRevenue
  | postPrepaidAmortization
  | allocateCorporateOverhead
  | postIntercompanySettlements
  | revalueForeignCurrency
  | calculateTaxProvision
  | translateForeignSubsidiaries
  | eliminateIntercompany
  | generateTrialBalance
  | generateFinancialStatements
  | closeIncomeStatement
  | postRetainedEarningsRollforward
  | custom (name : String)
deriving DecidableEq, Repr

def CloseTask.is_year_end_only : CloseTask → Bool
  | .closeIncomeStatement | .postRetainedEarningsRollforward => true
  | _ => false

def CloseTask.name : CloseTask → String
  | .runDepreciation => "Run Depreciation"
  | .postInventoryRevaluation => "Post Inventory Revaluation"
  | .reconcileArToGl => "Reconcile AR to GL"
  | .reconcileApToGl => "Reconcile AP to GL"
  | .reconcileFaToGl => "Reconcile FA to GL"
  | .reconcileInventoryToGl => "Reconcile Inventory to GL"
  | .postAccruedExpenses => "Post Accrued Expenses"
  | .postAccruedRevenue => "Post Accrued Revenue"
  | .postPrepaidAmortization => "Post Prepaid Amortization"
  | .allocateCorporateOverhead => "Allocate Corporate Overhead"
  | .postIntercompanySettlements => "Post IC Settlements"
  | .revalueForeignCurrency => "Revalue Foreign Currency"
  | .calculateTaxProvision => "Calculate Tax Provision"
  | .translateForeignSubsidiaries => "Translate Foreign Subs"
  | .eliminateIntercompany => "Eliminate Intercompany"
  | .generateTrialBalance => "Generate Trial Balance"
  | .generateFinancialStatements => "Generate Financials"
  | .closeIncomeStatement => "Close Income Statement"
  | .postRetainedEarningsRollforward => "Post RE Rollforward"
  | .custom name => name

inductive CloseTaskStatus where
  | pending
  | inProgress
  | completed
  | completedWithWarnings (warnings : List String)
  | failed (message : String)
  | skipped (reason : String)
deriving DecidableEq, Repr

structure CloseTaskResult where
  task : CloseTask
  company_code : String
  fiscal_period : FiscalPeriod
  status : CloseTaskStatus
  started_at : Option Date
  completed_at : Option Date
  journal_entries_created : ℕ
  total_amount : ℚ
  notes : List String
deriving DecidableEq

def CloseTaskResult.new (task : CloseTask) (company_code : String)
    (fiscal_period : FiscalPeriod) : CloseTaskResult :=
  ⟨task, company_code, fiscal_period, .pending, none, none, 0, 0, []⟩

def CloseTaskResult.is_success (result : CloseTaskResult) : Bool :=
  match result.status with
  | .completed | .completedWithWarnings _ => true
  | _ => false

structure ScheduledCloseTask where
  task : CloseTask
  sequence : ℕ
  depends_on : List CloseTask
  is_mandatory : Bool
deriving DecidableEq, Repr

def ScheduledCloseTask.new (task : CloseTask) (sequence : ℕ) : ScheduledCloseTask :=
  ⟨task, sequence, [], true⟩

/-- The task with one more dependency. -/
def ScheduledCloseTask.dependsOn (scheduled : ScheduledCloseTask) (task : CloseTask) :
    ScheduledCloseTask :=
  { scheduled with depends_on := scheduled.depends_on ++ [task] }

def ScheduledCloseTask.optional (scheduled : ScheduledCloseTask) : ScheduledCloseTask :=
  { scheduled with is_mandatory := false }

structure CloseSchedule where
  tasks : List ScheduledCloseTask
deriving DecidableEq, Repr

inductive PeriodCloseStatus where
  | notStarted
  | inProgress
  | completed
  | completedWithErrors
  | failed
deriving DecidableEq, Repr

structure PeriodCloseRun where
  run_id : String
  company_code : String
  fiscal_period : FiscalPeriod
  status : PeriodCloseStatus
  task_results : List CloseTaskResult
  started_at : Option Date
  completed_at : Option Date
  total_journal_entries : ℕ
  errors : List String
deriving DecidableEq

def PeriodCloseRun.new (run_id company_code : String) (fiscal_period : FiscalPeriod) :
    PeriodCloseRun :=
  ⟨run_id, company_code, fiscal_period, .notStarted, [], none, none, 0, []⟩

end Datasynth.Core.CloseSchedules
