import Mathlib.Algebra.Order.Group.Abs
import Mathlib.Tactic.Linarith
import Mathlib.Tactic.NormNum
import Datasynth.Core.TrialBalances
import Datasynth.Lib.SortedEntries

/-!
Trial balance reports: the lines, their totals by account category, and the accounting
equation and net income computed from them.
-/

namespace Datasynth.Core.TrialBalanceReports

open Datasynth.Core.AccountBalances (AccountBalance isDebitNormal)
open Datasynth.Core.TrialBalances (AccountType)
open Datasynth.Lib.CivilCalendar
open Datasynth.Lib.SortedEntries

section Categories

inductive AccountCategory where
  | currentAssets
  | nonCurrentAssets
  | currentLiabilities
  | nonCurrentLiabilities
  | equity
  | revenue
  | costOfGoodsSold
  | operatingExpenses
  | otherIncome
  | otherExpenses
deriving DecidableEq, Repr

namespace AccountCategory

def rank : AccountCategory → ℕ
  | currentAssets => 0
  | nonCurrentAssets => 1
  | currentLiabilities => 2
  | nonCurrentLiabilities => 3
  | equity => 4
  | revenue => 5
  | costOfGoodsSold => 6
  | operatingExpenses => 7
  | otherIncome => 8
  | otherExpenses => 9

theorem rank_injective : Function.Injective rank := by
  intro a b h
  cases a <;> cases b <;> first | rfl | cases h

/-- The categories in the order of their declaration. -/
instance instLinearOrderAccountCategory : LinearOrder AccountCategory :=
  LinearOrder.lift' rank rank_injective

def is_balance_sheet : AccountCategory → Bool
  | currentAssets | nonCurrentAssets | currentLiabilities | nonCurrentLiabilities | equity => true
  | _ => false

def is_income_statement (category : AccountCategory) : Bool := !category.is_balance_sheet

def from_account_type : AccountType → AccountCategory
  | .asset | .contraAsset => currentAssets
  | .liability | .contraLiability => currentLiabilities
  | .equity | .contraEquity => equity
  | .revenue => revenue
  | .expense => operatingExpenses

end AccountCategory

structure CategorySummary where
  category : AccountCategory
  account_count : ℕ
  total_debits : ℚ
  total_credits : ℚ
deriving DecidableEq

namespace CategorySummary

def new (category : AccountCategory) : CategorySummary := ⟨category, 0, 0, 0⟩

def add_balance (summary : CategorySummary) (debit credit : ℚ) : CategorySummary :=
  { summary with
    account_count := summary.account_count + 1
    total_debits := summary.total_debits + debit
    total_credits := summary.total_credits + credit }

def net_balance (summary : CategorySummary) : ℚ := summary.total_debits - summary.total_credits

@[simp] theorem net_balance_new (category : AccountCategory) : (new category).net_balance = 0 :=
  sub_self 0

@[simp] theorem net_balance_add_balance (summary : CategorySummary) (debit credit : ℚ) :
    (summary.add_balance debit credit).net_balance = summary.net_balance + (debit - credit) := by
  rw [net_balance, net_balance, add_balance, add_sub_add_comm]

end CategorySummary

end Categories

section Reports

structure TrialBalanceLine where
  account_code : String
  category : AccountCategory
  account_type : AccountType
  opening_balance : ℚ
  period_debits : ℚ
  period_credits : ℚ
  closing_balance : ℚ
  debit_balance : ℚ
  credit_balance : ℚ
deriving DecidableEq

def TrialBalanceLine.net_balance (line : TrialBalanceLine) : ℚ :=
  line.debit_balance - line.credit_balance

inductive TrialBalanceType where
  | unadjusted
  | adjusted
  | postClosing
  | consolidated
deriving DecidableEq, Repr

inductive TrialBalanceStatus where
  | draft
  | final
  | approved
  | archived
deriving DecidableEq, Repr

structure TrialBalance where
  trial_balance_id : String
  company_code : String
  as_of_date : Date
  fiscal_year : ℤ
  fiscal_period : ℕ
  currency : String
  balance_type : TrialBalanceType
  lines : List TrialBalanceLine
  total_debits : ℚ
  total_credits : ℚ
  is_balanced : Bool
  out_of_balance : ℚ
  is_equation_valid : Bool
  equation_difference : ℚ
  category_summary : OrderedMap AccountCategory CategorySummary
  status : TrialBalanceStatus

def tolerance : ℚ := 1 / 100

namespace TrialBalance

def new (trial_balance_id company_code : String) (as_of_date : Date) (fiscal_year : ℤ)
    (fiscal_period : ℕ) (currency : String) (balance_type : TrialBalanceType) : TrialBalance where
  trial_balance_id
  company_code
  as_of_date
  fiscal_year
  fiscal_period
  currency
  balance_type
  lines := []
  total_debits := 0
  total_credits := 0
  is_balanced := true
  out_of_balance := 0
  is_equation_valid := true
  equation_difference := 0
  category_summary := OrderedMap.empty
  status := .draft

section Totals

variable (tb : TrialBalance)

def get_category_total (category : AccountCategory) : Option CategorySummary :=
  tb.category_summary.find? category

/-- A category without lines has no balance. -/
def category_balance (category : AccountCategory) : ℚ :=
  ((tb.get_category_total category).map CategorySummary.net_balance).getD 0

def total_assets : ℚ := tb.category_balance .currentAssets + tb.category_balance .nonCurrentAssets

def total_liabilities : ℚ :=
  tb.category_balance .currentLiabilities + tb.category_balance .nonCurrentLiabilities

def total_equity : ℚ := tb.category_balance .equity

def total_revenue : ℚ := tb.category_balance .revenue

def total_expenses : ℚ :=
  tb.category_balance .costOfGoodsSold + tb.category_balance .operatingExpenses +
    tb.category_balance .otherExpenses

def net_income : ℚ := tb.total_revenue - tb.total_expenses

def recalculate : TrialBalance :=
  let out_of_balance := tb.total_debits - tb.total_credits
  let equation_difference := tb.total_assets - (tb.total_liabilities + tb.total_equity)
  { tb with
    out_of_balance
    is_balanced := decide (|out_of_balance| < tolerance)
    equation_difference
    is_equation_valid := decide (|equation_difference| < tolerance) }

def validate_accounting_equation : Bool × ℚ × ℚ × ℚ × ℚ :=
  let difference := tb.total_assets - (tb.total_liabilities + tb.total_equity)
  (decide (|difference| < tolerance), tb.total_assets, tb.total_liabilities, tb.total_equity,
    difference)

def add_line (line : TrialBalanceLine) : TrialBalance :=
  { tb with
    total_debits := tb.total_debits + line.debit_balance
    total_credits := tb.total_credits + line.credit_balance
    category_summary := tb.category_summary.upsert line.category fun summary =>
      (summary.getD (.new line.category)).add_balance line.debit_balance line.credit_balance
    lines := tb.lines ++ [line] }.recalculate

def add_lines (lines : List TrialBalanceLine) : TrialBalance := lines.foldl add_line tb

/-- A balance against the normal side of its account is shown on the other side. -/
def line_of_account_balance (balance : AccountBalance) : TrialBalanceLine :=
  let sides : ℚ × ℚ :=
    if isDebitNormal balance.account_type then
      if 0 ≤ balance.closing_balance then (balance.closing_balance, 0)
      else (0, |balance.closing_balance|)
    else if 0 ≤ balance.closing_balance then (0, balance.closing_balance)
    else (|balance.closing_balance|, 0)
  { account_code := balance.account_code
    category := .from_account_type balance.account_type
    account_type := balance.account_type
    opening_balance := balance.opening_balance
    period_debits := balance.period_debits
    period_credits := balance.period_credits
    closing_balance := balance.closing_balance
    debit_balance := sides.1
    credit_balance := sides.2 }

def add_from_account_balance (balance : AccountBalance) : TrialBalance :=
  tb.add_line (line_of_account_balance balance)

end Totals

end TrialBalance

end Reports

section Sums

/-- What the lines of a category net to, debits less credits. -/
def netOf (category : AccountCategory) (lines : List TrialBalanceLine) : ℚ :=
  ((lines.filter (·.category = category)).map TrialBalanceLine.net_balance).sum

def assetsOf (lines : List TrialBalanceLine) : ℚ :=
  netOf .currentAssets lines + netOf .nonCurrentAssets lines

def liabilitiesOf (lines : List TrialBalanceLine) : ℚ :=
  netOf .currentLiabilities lines + netOf .nonCurrentLiabilities lines

/-- The debit balance of all claims on the assets. -/
def claimsOf (lines : List TrialBalanceLine) : ℚ := liabilitiesOf lines + netOf .equity lines

def expensesOf (lines : List TrialBalanceLine) : ℚ :=
  netOf .costOfGoodsSold lines + netOf .operatingExpenses lines + netOf .otherExpenses lines

/-- Income counts as credits less debits, expenses as debits less credits. -/
def naturalNetIncome (lines : List TrialBalanceLine) : ℚ :=
  -netOf .revenue lines + -netOf .otherIncome lines - expensesOf lines

theorem netOf_append_singleton (category : AccountCategory) (lines : List TrialBalanceLine)
    (line : TrialBalanceLine) :
    netOf category (lines ++ [line]) =
      netOf category lines + if line.category = category then line.net_balance else 0 := by
  rw [netOf, List.filter_append, List.map_append, List.sum_append, ← netOf]
  congr 1
  split
  · rename_i h
    simp [h]
  · rename_i h
    simp [h]

theorem netOf_cons (category : AccountCategory) (lines : List TrialBalanceLine)
    (line : TrialBalanceLine) :
    netOf category (line :: lines) =
      (if line.category = category then line.net_balance else 0) + netOf category lines := by
  rw [netOf, List.filter_cons]
  split
  · rename_i h
    rw [List.map_cons, List.sum_cons, if_pos (of_decide_eq_true h), ← netOf]
  · rename_i h
    rw [if_neg fun heq => h (decide_eq_true heq), zero_add, ← netOf]

theorem sum_map_net_balance (lines : List TrialBalanceLine) :
    (lines.map TrialBalanceLine.net_balance).sum =
      (lines.map TrialBalanceLine.debit_balance).sum -
        (lines.map TrialBalanceLine.credit_balance).sum := by
  induction lines with
  | nil => simp
  | cons line lines ih =>
      simp only [List.map_cons, List.sum_cons, ih, TrialBalanceLine.net_balance]
      rw [add_sub_add_comm]

/-- On the balance sheet the lines net to the assets and the claims together. -/
theorem sum_net_balance_of_balance_sheet {lines : List TrialBalanceLine}
    (h : ∀ line ∈ lines, line.category.is_balance_sheet) :
    (lines.map TrialBalanceLine.net_balance).sum = assetsOf lines + claimsOf lines := by
  induction lines with
  | nil => simp [assetsOf, claimsOf, liabilitiesOf, netOf]
  | cons line lines ih =>
      rw [List.map_cons, List.sum_cons,
        ih fun l hl => h l (List.mem_cons_of_mem line hl)]
      simp only [assetsOf, claimsOf, liabilitiesOf, netOf_cons]
      have hline := h line List.mem_cons_self
      cases hcategory : line.category with
      | revenue | costOfGoodsSold | operatingExpenses | otherIncome | otherExpenses =>
          simp [hcategory, AccountCategory.is_balance_sheet] at hline
      | currentAssets | nonCurrentAssets | currentLiabilities | nonCurrentLiabilities | equity =>
          simp only [if_true, reduceCtorEq, if_false]
          linarith

end Sums

section Runs

/-- What a report says after any lines. -/
structure Reports (tb : TrialBalance) (lines : List TrialBalanceLine) : Prop where
  lines_eq : tb.lines = lines
  total_debits : tb.total_debits = (lines.map TrialBalanceLine.debit_balance).sum
  total_credits : tb.total_credits = (lines.map TrialBalanceLine.credit_balance).sum
  category_balance : ∀ category, tb.category_balance category = netOf category lines
  is_balanced : tb.is_balanced = decide (|tb.total_debits - tb.total_credits| < tolerance)
  is_equation_valid : tb.is_equation_valid =
    decide (|tb.total_assets - (tb.total_liabilities + tb.total_equity)| < tolerance)

variable (id code : String) (date : Date) (year : ℤ) (period : ℕ) (currency : String)
  (balance_type : TrialBalanceType)

theorem reports_new :
    Reports (.new id code date year period currency balance_type) [] := by
  constructor
  · rfl
  · rfl
  · rfl
  · intro category
    rfl
  · simp [TrialBalance.new, tolerance]
  · simp [TrialBalance.new, tolerance, TrialBalance.total_assets, TrialBalance.total_liabilities,
      TrialBalance.total_equity, TrialBalance.category_balance, TrialBalance.get_category_total]

variable {tb : TrialBalance} {lines : List TrialBalanceLine} {line : TrialBalanceLine}

theorem category_balance_add_line (category : AccountCategory) :
    (tb.add_line line).category_balance category =
      tb.category_balance category + if line.category = category then line.net_balance else 0 := by
  have hlookup : (tb.add_line line).get_category_total category =
      (tb.category_summary.upsert line.category fun summary =>
        (summary.getD (.new line.category)).add_balance line.debit_balance
          line.credit_balance).find? category := rfl
  rw [TrialBalance.category_balance, hlookup, OrderedMap.find?_upsert]
  split
  · rename_i h
    subst h
    rw [if_pos rfl, Option.map_some, Option.getD_some, CategorySummary.net_balance_add_balance,
      TrialBalance.category_balance, TrialBalance.get_category_total, TrialBalanceLine.net_balance]
    congr 1
    cases tb.category_summary.find? line.category with
    | none => exact CategorySummary.net_balance_new line.category
    | some summary => rfl
  · rename_i h
    rw [if_neg fun heq => h heq.symm, add_zero]
    rfl

/-- Adding a line keeps the report true. -/
theorem Reports.add_line (h : Reports tb lines) : Reports (tb.add_line line) (lines ++ [line]) where
  lines_eq := by
    rw [← h.lines_eq]
    rfl
  total_debits := by
    rw [List.map_append, List.sum_append, ← h.total_debits]
    simp [TrialBalance.add_line, TrialBalance.recalculate]
  total_credits := by
    rw [List.map_append, List.sum_append, ← h.total_credits]
    simp [TrialBalance.add_line, TrialBalance.recalculate]
  category_balance := fun category => by
    rw [category_balance_add_line, netOf_append_singleton, h.category_balance]
  is_balanced := rfl
  is_equation_valid := rfl

theorem Reports.add_lines {added : List TrialBalanceLine} (h : Reports tb lines) :
    Reports (tb.add_lines added) (lines ++ added) := by
  induction added generalizing tb lines with
  | nil => simpa [TrialBalance.add_lines] using h
  | cons line added ih =>
      rw [List.append_cons]
      exact ih h.add_line

theorem Reports.net_income (h : Reports tb lines) :
    tb.net_income = netOf .revenue lines - expensesOf lines := by
  simp only [TrialBalance.net_income, TrialBalance.total_revenue, TrialBalance.total_expenses,
    h.category_balance, expensesOf]

theorem Reports.is_equation_valid_iff (h : Reports tb lines) :
    tb.is_equation_valid ↔ |assetsOf lines - claimsOf lines| < tolerance := by
  rw [h.is_equation_valid, decide_eq_true_eq, TrialBalance.total_assets,
    TrialBalance.total_liabilities, TrialBalance.total_equity]
  simp only [h.category_balance, assetsOf, claimsOf, liabilitiesOf]

theorem Reports.out_of_balance_eq (h : Reports tb lines)
    (hsheet : ∀ line ∈ lines, line.category.is_balance_sheet) :
    tb.total_debits - tb.total_credits = assetsOf lines + claimsOf lines := by
  rw [← sum_net_balance_of_balance_sheet hsheet, h.total_debits, h.total_credits]
  exact (sum_map_net_balance lines).symm

end Runs

section Equation

/-- The difference and the sum have the magnitudes of the sum and the difference of the
magnitudes, in one order or the other. -/
theorem abs_sub_abs_add_cases (a b : ℚ) :
    |a - b| = |a| + |b| ∧ |a + b| = |(|a| - |b|)| ∨
      |a + b| = |a| + |b| ∧ |a - b| = |(|a| - |b|)| := by
  rcases le_total 0 a with ha | ha <;> rcases le_total 0 b with hb | hb
  · right
    rw [abs_of_nonneg ha, abs_of_nonneg hb, abs_of_nonneg (add_nonneg ha hb)]
    exact ⟨rfl, rfl⟩
  · left
    rw [abs_of_nonneg ha, abs_of_nonpos hb, abs_of_nonneg (sub_nonneg.mpr (hb.trans ha)),
      sub_neg_eq_add, sub_eq_add_neg]
    exact ⟨rfl, rfl⟩
  · left
    rw [abs_of_nonpos ha, abs_of_nonneg hb, abs_of_nonpos (sub_nonpos.mpr (ha.trans hb)),
      neg_sub, ← abs_neg (a + b), neg_add']
    exact ⟨by rw [sub_eq_add_neg, add_comm], rfl⟩
  · right
    rw [abs_of_nonpos ha, abs_of_nonpos hb, abs_of_nonpos (add_nonpos ha hb), neg_add,
      ← abs_neg (a - b), neg_sub, neg_sub_neg, ← neg_sub a b, abs_neg, ← abs_neg, neg_sub]
    exact ⟨rfl, rfl⟩

/-- The difference and the sum are both within the tolerance, or neither is. -/
theorem abs_sub_lt_iff_abs_add_lt (a b t : ℚ) :
    (|a - b| < t ↔ |a + b| < t) ↔ |a| + |b| < t ∨ t ≤ |(|a| - |b|)| := by
  have hle : |(|a| - |b|)| ≤ |a| + |b| := by
    simpa using abs_sub (|a|) (|b|)
  have hboth : ∀ x y : ℚ, x ≤ y → ((x < t ↔ y < t) ↔ y < t ∨ t ≤ x) := by
    intro x y hxy
    constructor
    · intro h
      rcases lt_or_ge x t with hx | hx
      · exact .inl (h.mp hx)
      · exact .inr hx
    · rintro (hy | hx)
      · exact iff_of_true (hxy.trans_lt hy) hy
      · exact iff_of_false hx.not_gt (hx.trans hxy).not_gt
  rcases abs_sub_abs_add_cases a b with ⟨hsub, hadd⟩ | ⟨hadd, hsub⟩
  · rw [hsub, hadd]
    exact Iff.comm.trans (hboth _ _ hle)
  · rw [hsub, hadd]
    exact hboth _ _ hle

variable (id code : String) (date : Date) (year : ℤ) (period : ℕ) (currency : String)
  (balance_type : TrialBalanceType)

def build (lines : List TrialBalanceLine) : TrialBalance :=
  (TrialBalance.new id code date year period currency balance_type).add_lines lines

theorem reports_build (lines : List TrialBalanceLine) :
    Reports (build id code date year period currency balance_type lines) lines :=
  (reports_new id code date year period currency balance_type).add_lines

/-- The report agrees with double entry. -/
def AgreesWithDoubleEntry (tb : TrialBalance) : Prop :=
  ((∀ line ∈ tb.lines, line.category.is_balance_sheet) →
    (tb.is_equation_valid ↔ |tb.total_debits - tb.total_credits| < tolerance)) ∧
  tb.net_income = naturalNetIncome tb.lines

theorem build_agreesWithDoubleEntry_iff (lines : List TrialBalanceLine) :
    AgreesWithDoubleEntry (build id code date year period currency balance_type lines) ↔
      ((∀ line ∈ lines, line.category.is_balance_sheet) →
        |assetsOf lines| + |claimsOf lines| < tolerance ∨
          tolerance ≤ |(|assetsOf lines| - |claimsOf lines|)|) ∧
      ((2 : ℕ) : ℚ) * netOf .revenue lines + netOf .otherIncome lines = 0 := by
  have h := reports_build id code date year period currency balance_type lines
  rw [AgreesWithDoubleEntry, h.lines_eq]
  apply and_congr
  · apply imp_congr_right
    intro hsheet
    rw [h.is_equation_valid_iff, h.out_of_balance_eq hsheet, abs_sub_lt_iff_abs_add_lt]
  · rw [h.net_income, naturalNetIncome]
    push_cast
    constructor
    · intro heq
      linarith
    · intro heq
      linarith

def cashLine : TrialBalanceLine where
  account_code := "1100"
  category := .currentAssets
  account_type := .asset
  opening_balance := 10000
  period_debits := 50000
  period_credits := 30000
  closing_balance := 30000
  debit_balance := 30000
  credit_balance := 0

def payablesLine : TrialBalanceLine where
  account_code := "2100"
  category := .currentLiabilities
  account_type := .liability
  opening_balance := 15000
  period_debits := 10000
  period_credits := 25000
  closing_balance := 30000
  debit_balance := 0
  credit_balance := 30000

/-- Cash financed by payables balances, and the equation is reported not to hold. -/
theorem balanced_report_fails_equation :
    ¬ AgreesWithDoubleEntry
      (build "TB202206" "1000" (.ofYmd 2022 6 30) 2022 6 "USD" .adjusted
        [cashLine, payablesLine]) := by
  have h := reports_build "TB202206" "1000" (.ofYmd 2022 6 30) 2022 6 "USD" .adjusted
    [cashLine, payablesLine]
  have hsheet : ∀ line ∈ [cashLine, payablesLine], line.category.is_balance_sheet := by decide
  rintro ⟨hequation, -⟩
  have hiff := hequation (h.lines_eq ▸ hsheet)
  rw [h.is_equation_valid_iff, h.out_of_balance_eq hsheet] at hiff
  have hassets : assetsOf [cashLine, payablesLine] = 30000 := by
    simp [assetsOf, netOf, TrialBalanceLine.net_balance, cashLine, payablesLine]
  have hclaims : claimsOf [cashLine, payablesLine] = -30000 := by
    simp [claimsOf, liabilitiesOf, netOf, TrialBalanceLine.net_balance, cashLine, payablesLine]
  rw [hassets, hclaims, tolerance] at hiff
  norm_num at hiff

end Equation

end Datasynth.Core.TrialBalanceReports
