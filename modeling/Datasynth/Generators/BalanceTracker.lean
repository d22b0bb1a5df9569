import Mathlib.Algebra.Order.Field.Rat
import Mathlib.Data.String.Basic
import Datasynth.Core.TrialBalances
import Datasynth.Core.JournalEntries
import Datasynth.Lib.AmountText
import Datasynth.Lib.SortedEntries

/-!
The running balance tracker: account balances kept up to date entry by entry, and the
check of the balance sheet equation after each of them.
-/

namespace Datasynth.Generators.BalanceTracker

open Datasynth.Core.AccountBalances
open Datasynth.Core.JournalEntries
open Datasynth.Core.TrialBalances
open Datasynth.Lib.CivilCalendar
open Datasynth.Lib.DecimalText
open Datasynth.Lib.SortedEntries

structure BalanceTrackerConfig where
  validate_on_each_entry : Bool
  track_history : Bool
  balance_tolerance : ℚ
  fail_on_validation_error : Bool

def BalanceTrackerConfig.default : BalanceTrackerConfig := ⟨true, true, 0.01, false⟩

structure BalanceHistoryEntry where
  date : Date
  entry_id : String
  account_code : String
  previous_balance : ℚ
  change : ℚ
  new_balance : ℚ
deriving DecidableEq

inductive ValidationErrorType where
  | unbalancedEntry
  | balanceSheetImbalance
deriving DecidableEq, Repr

structure ValidationError where
  date : Date
  company_code : String
  entry_id : Option String
  error_type : ValidationErrorType
  message : String
  details : List (String × ℚ)
deriving DecidableEq

structure TrackerStatistics where
  entries_processed : ℕ
  lines_processed : ℕ
  total_debits : ℚ
  total_credits : ℚ
  companies_tracked : ℕ
  accounts_tracked : ℕ
  validation_errors : ℕ
deriving DecidableEq

def TrackerStatistics.default : TrackerStatistics := ⟨0, 0, 0, 0, 0, 0, 0⟩

/-- The registered account types stand in the order in which their map is iterated. -/
structure RunningBalanceTracker where
  config : BalanceTrackerConfig
  balances : OrderedMap String (OrderedMap String AccountBalance)
  account_types : List (String × AccountType)
  classifier : String → AccountCategory
  history : OrderedMap String (List BalanceHistoryEntry)
  validation_errors : List ValidationError
  stats : TrackerStatistics
  currency : String

namespace RunningBalanceTracker

/-- An empty tracker with the account types registered with it. -/
def new (config : BalanceTrackerConfig) (currency : String)
    (account_types : List (String × AccountType)) (classifier : String → AccountCategory) :
    RunningBalanceTracker where
  config := config
  balances := .empty
  account_types := account_types
  classifier := classifier
  history := .empty
  validation_errors := []
  stats := .default
  currency := currency

variable (tracker : RunningBalanceTracker)

/-- The first registered code that the account starts with decides, then the framework. -/
def determine_account_type (account_code : String) : AccountType :=
  match tracker.account_types.find? fun e => e.1.toList.isPrefixOf account_code.toList with
  | some (_, account_type) => account_type
  | none => account_type_from_category (tracker.classifier account_code)

section Validation

variable (company_balances : OrderedMap String AccountBalance)

/-- The sum over the accounts of a type. -/
def totalOf (account_type : AccountType) (amount : ℚ → ℚ) : ℚ :=
  company_balances.sumOver fun account_code balance =>
    if tracker.determine_account_type account_code = account_type then
      amount balance.closing_balance
    else 0

def totalAssets : ℚ :=
  tracker.totalOf company_balances .asset id - tracker.totalOf company_balances .contraAsset abs

def totalLiabilities : ℚ :=
  tracker.totalOf company_balances .liability abs -
    tracker.totalOf company_balances .contraLiability abs

def totalEquity : ℚ :=
  tracker.totalOf company_balances .equity abs - tracker.totalOf company_balances .contraEquity abs

def netIncome : ℚ :=
  tracker.totalOf company_balances .revenue abs - tracker.totalOf company_balances .expense abs

def imbalanceError (company_code : String) (date : Date) (entry_id : Option String) :
    ValidationError :=
  let left_side := tracker.totalAssets company_balances
  let right_side := tracker.totalLiabilities company_balances +
    tracker.totalEquity company_balances + tracker.netIncome company_balances
  let difference := |left_side - right_side|
  { date := date
    company_code := company_code
    entry_id := entry_id
    error_type := .balanceSheetImbalance
    message :=
      "Balance sheet imbalance: Assets (" ++ decimalText left_side ++ ") != L + E + NI (" ++
        decimalText right_side ++ "), diff = " ++ decimalText difference
    details :=
      [("total_assets", left_side),
        ("total_liabilities", tracker.totalLiabilities company_balances),
        ("total_equity", tracker.totalEquity company_balances),
        ("net_income", tracker.netIncome company_balances), ("difference", difference)] }

end Validation

/-- The result comes with the tracker that it leaves. -/
def validate_balance_sheet (company_code : String) (date : Date) (entry_id : Option String) :
    Except ValidationError Unit × RunningBalanceTracker :=
  match tracker.balances.find? company_code with
  | none => (.ok (), tracker)
  | some company_balances =>
      let left_side := tracker.totalAssets company_balances
      let right_side := tracker.totalLiabilities company_balances +
        tracker.totalEquity company_balances + tracker.netIncome company_balances
      let difference := |left_side - right_side|
      if tracker.config.balance_tolerance < difference then
        let error := tracker.imbalanceError company_balances company_code date entry_id
        let tracker :=
          { tracker with
            stats :=
              { tracker.stats with validation_errors := tracker.stats.validation_errors + 1 } }
        if tracker.config.fail_on_validation_error then (.error error, tracker)
        else
          (.ok (), { tracker with validation_errors := tracker.validation_errors ++ [error] })
      else (.ok (), tracker)

section Entries

variable (document_number : String) (entry : JournalEntry)

def unbalancedError : ValidationError where
  date := entry.header.posting_date
  company_code := entry.header.company_code
  entry_id := some document_number
  error_type := .unbalancedEntry
  message :=
    "Entry " ++ document_number ++ " is unbalanced: debits=" ++ decimalText entry.total_debit ++
      ", credits=" ++ decimalText entry.total_credit
  details := [("total_debit", entry.total_debit), ("total_credit", entry.total_credit)]

/-- The balance of the account of a line before the line. -/
def lineBalance (company_balances : OrderedMap String AccountBalance) (line : JournalEntryLine) :
    AccountBalance :=
  (company_balances.find? line.gl_account).getD
    (.new entry.header.company_code line.gl_account (tracker.determine_account_type line.gl_account)
      tracker.currency entry.header.posting_date.year entry.header.posting_date.month)

/-- Only positive amounts are applied. -/
def applyLine (line : JournalEntryLine) (balance : AccountBalance) : AccountBalance :=
  let balance :=
    if 0 < line.debit_amount then balance.apply_debit line.debit_amount else balance
  if 0 < line.credit_amount then balance.apply_credit line.credit_amount else balance

def applyLines : List JournalEntryLine → OrderedMap String AccountBalance →
    OrderedMap String AccountBalance × List BalanceHistoryEntry
  | [], company_balances => (company_balances, [])
  | line :: lines, company_balances =>
      let balance := tracker.lineBalance entry company_balances line
      let new_balance := applyLine line balance
      let rest := applyLines lines (company_balances.insert line.gl_account new_balance)
      let change : BalanceHistoryEntry :=
        { date := entry.header.posting_date
          entry_id := document_number
          account_code := line.gl_account
          previous_balance := balance.closing_balance
          change := line.debit_amount - line.credit_amount
          new_balance := new_balance.closing_balance }
      (rest.1, if tracker.config.track_history then change :: rest.2 else rest.2)

/-- The entry posted, before the balance sheet is validated. -/
def post : RunningBalanceTracker :=
  let company_code := entry.header.company_code
  let applied := tracker.applyLines document_number entry entry.lines
    ((tracker.balances.find? company_code).getD .empty)
  let balances := tracker.balances.insert company_code applied.1
  { tracker with
    balances := balances
    history :=
      if applied.2 = [] then tracker.history
      else tracker.history.upsert company_code fun entries => entries.getD [] ++ applied.2
    stats :=
      { tracker.stats with
        entries_processed := tracker.stats.entries_processed + 1
        lines_processed := tracker.stats.lines_processed + entry.lines.length
        total_debits := tracker.stats.total_debits + entry.total_debit
        total_credits := tracker.stats.total_credits + entry.total_credit
        companies_tracked := balances.keys.length
        accounts_tracked := (balances.values.map (·.keys.length)).sum } }

def apply_entry : Except ValidationError Unit × RunningBalanceTracker :=
  if entry.total_debit ≠ entry.total_credit ∧ tracker.config.fail_on_validation_error = true then
    (.error (unbalancedError document_number entry), tracker)
  else
    let tracker :=
      if entry.total_debit ≠ entry.total_credit then
        { tracker with
          validation_errors :=
            tracker.validation_errors ++ [unbalancedError document_number entry] }
      else tracker
    let tracker := tracker.post document_number entry
    if tracker.config.validate_on_each_entry then
      tracker.validate_balance_sheet entry.header.company_code entry.header.posting_date
        (some document_number)
    else (.ok (), tracker)

end Entries

/-- The tracker after entries with their document numbers; an error does not end the batch. -/
def applyEntries (entries : List (String × JournalEntry)) : RunningBalanceTracker :=
  entries.foldl (fun tracker e => (tracker.apply_entry e.1 e.2).2) tracker

end RunningBalanceTracker

end Datasynth.Generators.BalanceTracker
