import Datasynth.Lib.CivilCalendar
import Mathlib.Algebra.Group.Nat.Defs
import Mathlib.Algebra.Order.Ring.Unbundled.Rat

/-! Trial balances, opening balances and the account types of their rows. -/

namespace Datasynth.Core.TrialBalances

open Datasynth.Lib.CivilCalendar

inductive AccountType where
  | asset
  | contraAsset
  | liability
  | contraLiability
  | equity
  | contraEquity
  | revenue
  | expense
deriving DecidableEq, Repr

def AccountType.default : AccountType := .asset

def AccountType.isBalanceSheet : AccountType → Bool
  | .revenue | .expense => false
  | _ => true

def AccountType.isAssetSide : AccountType → Bool
  | .asset | .contraAsset => true
  | _ => false

def AccountType.isEquitySide : AccountType → Bool
  | .equity | .contraEquity => true
  | _ => false

structure TrialBalanceLine where
  account_code : String
  account_type : AccountType
  debit_balance : ℚ
  credit_balance : ℚ
deriving DecidableEq

structure TrialBalance where
  company_code : String
  as_of_date : Date
  fiscal_year : ℤ
  fiscal_period : ℕ
  currency : String
  lines : List TrialBalanceLine
  total_debits : ℚ
  total_credits : ℚ
deriving DecidableEq

structure EntityOpeningBalance where
  account_code : String
  account_type : AccountType
  debit : ℚ
  credit : ℚ
deriving DecidableEq

/-- The reading of a text as an unsigned 32-bit number. -/
def parse_u32 (code : String) : Option ℕ :=
  let digits :=
    match code.toList with
    | '+' :: rest => rest
    | digits => digits
  if digits.isEmpty || !digits.all Char.isDigit then none
  else
    let n := digits.foldl (fun n c => 10 * n + (c.toNat - '0'.toNat)) 0
    if n < 2 ^ 32 then some n else none

/-- The account codes that differ by accounting framework. -/
structure FrameworkAccounts where
  retained_earnings : String

namespace FrameworkAccounts

def us_gaap : FrameworkAccounts := ⟨"3200"⟩

def ifrs : FrameworkAccounts := us_gaap

def french_gaap : FrameworkAccounts := ⟨"129000"⟩

def german_gaap : FrameworkAccounts := ⟨"2970"⟩

/-- An unknown framework is treated as US GAAP. -/
def for_framework (framework : String) : FrameworkAccounts :=
  if framework ∈ ["us_gaap", "UsGaap"] then us_gaap
  else if framework ∈ ["ifrs", "Ifrs"] then ifrs
  else if framework ∈ ["dual_reporting", "DualReporting"] then us_gaap
  else if framework ∈ ["french_gaap", "FrenchGaap"] then french_gaap
  else if framework ∈ ["german_gaap", "GermanGaap", "hgb"] then german_gaap
  else us_gaap

end FrameworkAccounts

end Datasynth.Core.TrialBalances

/-! Balances of single accounts, and the types of accounts by their category. -/

namespace Datasynth.Core.AccountBalances

open Datasynth.Core.TrialBalances

inductive AccountCategory where
  | asset
  | liability
  | equity
  | revenue
  | cogs
  | operatingExpense
  | otherIncomeExpense
  | tax
  | suspense
  | unknown
deriving DecidableEq, Repr

def AccountCategory.from_account (account : String) : AccountCategory :=
  match account.toList.head? with
  | some '1' => .asset
  | some '2' => .liability
  | some '3' => .equity
  | some '4' => .revenue
  | some '5' => .cogs
  | some '6' => .operatingExpense
  | some '7' => .otherIncomeExpense
  | some '8' => .tax
  | some '9' => .suspense
  | _ => .unknown

def account_type_from_category : AccountCategory → AccountType
  | .asset => .asset
  | .liability => .liability
  | .equity => .equity
  | .revenue => .revenue
  | .cogs | .operatingExpense | .otherIncomeExpense | .tax => .expense
  | .suspense | .unknown => .asset

/-- Whether debits increase the balance of an account. -/
def isDebitNormal : AccountType → Bool
  | .asset | .expense | .contraLiability | .contraEquity => true
  | .liability | .equity | .revenue | .contraAsset => false

structure AccountBalance where
  company_code : String
  account_code : String
  account_type : AccountType
  currency : String
  opening_balance : ℚ
  period_debits : ℚ
  period_credits : ℚ
  closing_balance : ℚ
  fiscal_year : ℤ
  fiscal_period : ℕ
deriving DecidableEq

namespace AccountBalance

def new (company_code account_code : String) (account_type : AccountType) (currency : String)
    (fiscal_year : ℤ) (fiscal_period : ℕ) : AccountBalance :=
  ⟨company_code, account_code, account_type, currency, 0, 0, 0, 0, fiscal_year, fiscal_period⟩

variable (balance : AccountBalance)

def recalculate_closing : AccountBalance :=
  { balance with
    closing_balance :=
      if isDebitNormal balance.account_type then
        balance.opening_balance + balance.period_debits - balance.period_credits
      else balance.opening_balance - balance.period_debits + balance.period_credits }

def apply_debit (amount : ℚ) : AccountBalance :=
  { balance with period_debits := balance.period_debits + amount }.recalculate_closing

def apply_credit (amount : ℚ) : AccountBalance :=
  { balance with period_credits := balance.period_credits + amount }.recalculate_closing

end AccountBalance

end Datasynth.Core.AccountBalances
