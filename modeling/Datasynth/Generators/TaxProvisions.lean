import Mathlib.Data.Rat.Floor
import Datasynth.Generators.YearEndClose
import Datasynth.Lib.HalfEvenRounding

/-!
Income tax provisions at the end of a year, and the entries that post them.  The numbers of the
documents are left out.
-/

namespace Datasynth.Generators.TaxProvisions

open Datasynth.Core.JournalEntries
open Datasynth.Generators.YearEndClose
open Datasynth.Lib.CivilCalendar
open Datasynth.Lib.HalfEvenRounding
open Datasynth.Lib.SignedPostings

section Model

structure TaxAdjustment where
  description : String
  amount : ℚ
  is_addition : Bool

def TaxAdjustment.signed (d : TaxAdjustment) : ℚ := if d.is_addition then d.amount else -d.amount

def signedSum (differences : List TaxAdjustment) : ℚ := (differences.map TaxAdjustment.signed).sum

/-- The rate is in percent. -/
structure TaxProvisionInput where
  company_code : String
  fiscal_year : ℤ
  pretax_income : ℚ
  permanent_differences : List TaxAdjustment
  temporary_differences : List TaxAdjustment
  statutory_rate : ℚ
  tax_credits : ℚ
  prior_year_adjustment : ℚ

structure TaxProvisionResult where
  company_code : String
  fiscal_year : ℤ
  pretax_income : ℚ
  permanent_differences : ℚ
  taxable_income : ℚ
  current_tax_expense : ℚ
  deferred_tax_expense : ℚ
  total_tax_expense : ℚ
  effective_rate : ℚ

def TaxProvisionResult.calculate (input : TaxProvisionInput) : TaxProvisionResult :=
  let permanent_diff := signedSum input.permanent_differences
  let temporary_diff := signedSum input.temporary_differences
  let taxable_income := input.pretax_income + permanent_diff
  let current_tax := roundDp 2 (taxable_income * input.statutory_rate / 100)
  let deferred_tax := roundDp 2 (temporary_diff * input.statutory_rate / 100)
  let total_tax := current_tax + deferred_tax - input.tax_credits + input.prior_year_adjustment
  { company_code := input.company_code
    fiscal_year := input.fiscal_year
    pretax_income := input.pretax_income
    permanent_differences := permanent_diff
    taxable_income := taxable_income
    current_tax_expense := current_tax
    deferred_tax_expense := deferred_tax
    total_tax_expense := total_tax
    effective_rate :=
      if input.pretax_income ≠ 0 then roundDp 2 (total_tax / input.pretax_income * 100) else 0 }

/-- What a tax provision reads of the year-end configuration. -/
structure TaxConfig where
  current_tax_payable_account : String
  deferred_tax_liability_account : String
  deferred_tax_asset_account : String
  tax_expense_account : String
  statutory_tax_rate : ℚ

def TaxConfig.default : TaxConfig := ⟨"2100", "2500", "1600", "8000", 21⟩

structure TaxProvisionGenerationResult where
  provision : TaxProvisionResult
  journal_entries : List JournalEntry

variable (config : TaxConfig) (company_code : String)

/-- No entry for no tax. -/
def current_tax_entry (closing_date : Date) (current_tax : ℚ) : List JournalEntry :=
  if current_tax ≠ 0 then
    let je := new_simple company_code closing_date "Current Income Tax Expense"
    [(je.add_line (.debit 1 config.tax_expense_account current_tax)).add_line
      (.credit 2 config.current_tax_payable_account current_tax)]
  else []

def deferred_tax_entry (closing_date : Date) (deferred_tax : ℚ) : List JournalEntry :=
  if deferred_tax ≠ 0 then
    let je := new_simple company_code closing_date "Deferred Income Tax"
    if 0 < deferred_tax then
      [(je.add_line (.debit 1 config.tax_expense_account deferred_tax)).add_line
        (.credit 2 config.deferred_tax_liability_account deferred_tax)]
    else
      [(je.add_line (.debit 1 config.deferred_tax_asset_account |deferred_tax|)).add_line
        (.credit 2 config.tax_expense_account |deferred_tax|)]
  else []

def TaxConfig.input (fiscal_year : ℤ) (pretax_income : ℚ)
    (permanent_differences temporary_differences : List TaxAdjustment) : TaxProvisionInput where
  company_code := company_code
  fiscal_year := fiscal_year
  pretax_income := pretax_income
  permanent_differences := permanent_differences
  temporary_differences := temporary_differences
  statutory_rate := config.statutory_tax_rate
  tax_credits := 0
  prior_year_adjustment := 0

/-- None, where the source panics, if the calendar does not have the year. -/
def generate_tax_provision (fiscal_year : ℤ) (pretax_income : ℚ)
    (permanent_differences temporary_differences : List TaxAdjustment) :
    Option TaxProvisionGenerationResult :=
  if yearInRange fiscal_year then
    let closing_date := Date.ofYmd fiscal_year 12 31
    let provision := TaxProvisionResult.calculate (config.input company_code fiscal_year
      pretax_income permanent_differences temporary_differences)
    some
      { provision := provision
        journal_entries :=
          current_tax_entry config company_code closing_date provision.current_tax_expense ++
            deferred_tax_entry config company_code closing_date provision.deferred_tax_expense }
  else none

end Model

section Totals

/-- Temporary differences do not change the total by more than a cent, and it is the rate applied
to pretax income and permanent differences, less credits plus prior-year adjustment. -/
structure TimingNeutral (input : TaxProvisionInput) : Prop where
  independent : |(TaxProvisionResult.calculate input).total_tax_expense -
    (TaxProvisionResult.calculate { input with temporary_differences := [] }).total_tax_expense| ≤
      1 / 100
  rate_applied : |(TaxProvisionResult.calculate input).total_tax_expense -
    (roundDp 2 ((input.pretax_income + signedSum input.permanent_differences) *
      input.statutory_rate / 100) - input.tax_credits + input.prior_year_adjustment)| ≤ 1 / 100

theorem abs_roundDp_two_le_cent_iff {x : ℚ} : |roundDp 2 x| ≤ 1 / 100 ↔ |x| < 3 / 200 := by
  have hscaled : |x * 100| = |x| * 100 := by rw [abs_mul, abs_of_pos (by norm_num : (0 : ℚ) < 100)]
  have hround : |roundDp 2 x| = (|roundHalfEven (x * 100)| : ℤ) / 100 := by
    rw [roundDp, abs_div, Int.cast_abs]
    norm_num
  rw [hround, div_le_div_iff_of_pos_right (by norm_num)]
  have hiff := abs_roundHalfEven_le_one_iff (x := x * 100)
  rw [hscaled] at hiff
  constructor
  · intro h
    have hlt := hiff.mp (by exact_mod_cast h)
    linarith
  · intro h
    exact_mod_cast hiff.mpr (by linarith)

/-- Only what is deferred differs. -/
theorem timingNeutral_iff (input : TaxProvisionInput) :
    TimingNeutral input ↔
      |signedSum input.temporary_differences * input.statutory_rate / 100| < 3 / 200 := by
  have hnone : roundDp 2 (signedSum [] * input.statutory_rate / 100) = 0 := by
    rw [signedSum, List.map_nil, List.sum_nil, zero_mul, zero_div, roundDp_zero]
  rw [← abs_roundDp_two_le_cent_iff]
  constructor
  · rintro ⟨-, h⟩
    rw [TaxProvisionResult.calculate] at h
    convert h using 2
    ring
  · intro h
    constructor
    · rw [TaxProvisionResult.calculate, TaxProvisionResult.calculate]
      dsimp only
      rw [hnone]
      convert h using 2
      ring
    · rw [TaxProvisionResult.calculate]
      convert h using 2
      ring

end Totals

section Postings

variable {config : TaxConfig}

/-- What is posted to the expense account on both sides of an entry. -/
def TaxConfig.cancelled (config : TaxConfig) (current_tax deferred_tax : ℚ) : ℚ :=
  (if config.current_tax_payable_account = config.tax_expense_account then current_tax else 0) +
    if (if 0 < deferred_tax then config.deferred_tax_liability_account
      else config.deferred_tax_asset_account) = config.tax_expense_account then deferred_tax else 0

/-- An entry with one amount on two accounts. -/
theorem net_two_lines (account : String) {je : JournalEntry} (hnew : je.lines = [])
    (debit credit : String) (amount : ℚ) :
    netOn account
        ([(je.add_line (.debit 1 debit amount)).add_line (.credit 2 credit amount)].flatMap
          JournalEntry.postings) =
      (if debit = account then amount else 0) - if credit = account then amount else 0 := by
  rw [List.flatMap_singleton, JournalEntry.postings, JournalEntry.add_line_lines,
    JournalEntry.add_line_lines, hnew]
  simp only [JournalEntryLine.debit, JournalEntryLine.credit, List.nil_append, List.cons_append,
    List.map_cons, List.map_nil, netOn_cons, netOn_nil, sub_zero, zero_sub, add_zero]
  split_ifs <;> ring

theorem net_current_tax_entry (company_code : String) (closing_date : Date) (current_tax : ℚ) :
    netOn config.tax_expense_account
        ((current_tax_entry config company_code closing_date current_tax).flatMap
          JournalEntry.postings) =
      current_tax -
        if config.current_tax_payable_account = config.tax_expense_account then current_tax
        else 0 := by
  rw [current_tax_entry]
  by_cases hzero : current_tax = 0
  · rw [if_neg (not_not.mpr hzero), hzero, ite_self, sub_zero]
    rfl
  · rw [if_pos hzero, net_two_lines _ rfl, if_pos rfl]

/-- A benefit is posted as an expense of less than nothing. -/
theorem net_deferred_tax_entry (company_code : String) (closing_date : Date) (deferred_tax : ℚ) :
    netOn config.tax_expense_account
        ((deferred_tax_entry config company_code closing_date deferred_tax).flatMap
          JournalEntry.postings) =
      deferred_tax -
        if (if 0 < deferred_tax then config.deferred_tax_liability_account
          else config.deferred_tax_asset_account) = config.tax_expense_account then deferred_tax
        else 0 := by
  rw [deferred_tax_entry]
  rcases lt_trichotomy deferred_tax 0 with hneg | hzero | hpos
  · rw [if_pos hneg.ne, if_neg hneg.not_gt, if_neg hneg.not_gt, net_two_lines _ rfl, if_pos rfl,
      abs_of_neg hneg]
    split_ifs <;> ring
  · rw [if_neg (not_not.mpr hzero), hzero, ite_self, sub_zero]
    rfl
  · rw [if_pos hpos.ne', if_pos hpos, if_pos hpos, net_two_lines _ rfl, if_pos rfl]

end Postings

section Result

/-- The entries post the total to the expense account. -/
def TaxConfig.Posts (config : TaxConfig) (result : TaxProvisionGenerationResult) : Prop :=
  netOn config.tax_expense_account (result.journal_entries.flatMap JournalEntry.postings) =
    result.provision.total_tax_expense

variable (config : TaxConfig) (company_code : String) (fiscal_year : ℤ) (pretax_income : ℚ)
  (permanent_differences temporary_differences : List TaxAdjustment)

theorem exists_posts_iff :
    (∃ result, generate_tax_provision config company_code fiscal_year pretax_income
        permanent_differences temporary_differences = some result ∧ config.Posts result) ↔
      yearInRange fiscal_year = true ∧
        config.cancelled
          (roundDp 2 ((pretax_income + signedSum permanent_differences) *
            config.statutory_tax_rate / 100))
          (roundDp 2 (signedSum temporary_differences * config.statutory_tax_rate / 100)) = 0 := by
  rw [generate_tax_provision]
  by_cases hyear : yearInRange fiscal_year = true
  · rw [if_pos hyear, and_iff_right hyear]
    simp only [Option.some.injEq, exists_eq_left']
    rw [TaxConfig.Posts, List.flatMap_append, netOn_append, net_current_tax_entry,
      net_deferred_tax_entry, TaxConfig.cancelled]
    simp only [TaxProvisionResult.calculate, TaxConfig.input, sub_zero, add_zero]
    constructor
    · intro h
      linarith
    · intro h
      linarith
  · rw [if_neg hyear]
    exact iff_of_false (fun ⟨_, h, _⟩ => by cases h) fun h => hyear h.1

/-- The provision with any credits and prior-year adjustment, and the entries with none. -/
theorem provision_iff (tax_credits prior_year_adjustment : ℚ) :
    (TimingNeutral
        { config.input company_code fiscal_year pretax_income permanent_differences
            temporary_differences with
          tax_credits := tax_credits
          prior_year_adjustment := prior_year_adjustment } ∧
      ∃ result, generate_tax_provision config company_code fiscal_year pretax_income
        permanent_differences temporary_differences = some result ∧ config.Posts result) ↔
      |signedSum temporary_differences * config.statutory_tax_rate / 100| < 3 / 200 ∧
        yearInRange fiscal_year = true ∧
          config.cancelled
            (roundDp 2 ((pretax_income + signedSum permanent_differences) *
              config.statutory_tax_rate / 100))
            (roundDp 2 (signedSum temporary_differences * config.statutory_tax_rate / 100)) =
              0 := by
  rw [timingNeutral_iff, exists_posts_iff]
  rfl

/-- A deduction for depreciation of 50000 that is only early takes 10500 off the total. -/
theorem early_depreciation_not_neutral :
    let input : TaxProvisionInput :=
      { company_code := "1000"
        fiscal_year := 2024
        pretax_income := 1000000
        permanent_differences := [⟨"Meals & Entertainment", 10000, true⟩]
        temporary_differences := [⟨"Depreciation Timing", 50000, false⟩]
        statutory_rate := 21
        tax_credits := 5000
        prior_year_adjustment := 0 }
    (TaxProvisionResult.calculate input).total_tax_expense = 196600 ∧
      (TaxProvisionResult.calculate
        { input with temporary_differences := [] }).total_tax_expense = 207100 ∧
      ¬TimingNeutral input := by
  intro input
  have htotal : (TaxProvisionResult.calculate input).total_tax_expense = 196600 := by
    decide +kernel
  have hwithout : (TaxProvisionResult.calculate
      { input with temporary_differences := [] }).total_tax_expense = 207100 := by
    decide +kernel
  refine ⟨htotal, hwithout, fun h => ?_⟩
  have hindependent := h.independent
  rw [htotal, hwithout] at hindependent
  exact absurd hindependent (by decide +kernel)

end Result

end Datasynth.Generators.TaxProvisions
