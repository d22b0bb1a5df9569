import Mathlib.Algebra.Order.Group.Unbundled.Abs
import Mathlib.Data.List.Infix
import Mathlib.Data.String.Basic
import Mathlib.Tactic.NormNum
import Datasynth.Core.TrialBalances
import Datasynth.Lib.SortedEntries

/-!
Snapshots of account balances: the totals that are kept while balances are added, and when they
are the totals of the accounts of the snapshot.
-/

namespace Datasynth.Core.BalanceSnapshots

open Datasynth.Core.AccountBalances
open Datasynth.Core.TrialBalances
open Datasynth.Lib.CivilCalendar
open Datasynth.Lib.SortedEntries

structure BalanceSnapshot where
  snapshot_id : String
  company_code : String
  as_of_date : Date
  fiscal_year : ℤ
  fiscal_period : ℕ
  currency : String
  balances : OrderedMap String AccountBalance
  total_assets : ℚ
  total_liabilities : ℚ
  total_equity : ℚ
  total_revenue : ℚ
  total_expenses : ℚ
  net_income : ℚ
  is_balanced : Bool
  balance_difference : ℚ

namespace BalanceSnapshot

def new (snapshot_id company_code : String) (as_of_date : Date) (fiscal_year : ℤ)
    (fiscal_period : ℕ) (currency : String) : BalanceSnapshot where
  snapshot_id := snapshot_id
  company_code := company_code
  as_of_date := as_of_date
  fiscal_year := fiscal_year
  fiscal_period := fiscal_period
  currency := currency
  balances := .empty
  total_assets := 0
  total_liabilities := 0
  total_equity := 0
  total_revenue := 0
  total_expenses := 0
  net_income := 0
  is_balanced := true
  balance_difference := 0

variable (snapshot : BalanceSnapshot)

def recalculate_totals : BalanceSnapshot :=
  let net_income := snapshot.total_revenue - snapshot.total_expenses
  let total_equity_with_income := snapshot.total_equity + net_income
  let balance_difference :=
    snapshot.total_assets - snapshot.total_liabilities - total_equity_with_income
  { snapshot with
    net_income := net_income
    balance_difference := balance_difference
    is_balanced := |balance_difference| < 1 / 100 }

/-- The totals after a closing balance is counted. -/
def addClosing (closing : ℚ) : AccountType → BalanceSnapshot
  | .asset => { snapshot with total_assets := snapshot.total_assets + closing }
  | .contraAsset => { snapshot with total_assets := snapshot.total_assets - closing }
  | .liability => { snapshot with total_liabilities := snapshot.total_liabilities + closing }
  | .contraLiability => { snapshot with total_liabilities := snapshot.total_liabilities - closing }
  | .equity => { snapshot with total_equity := snapshot.total_equity + closing }
  | .contraEquity => { snapshot with total_equity := snapshot.total_equity - closing }
  | .revenue => { snapshot with total_revenue := snapshot.total_revenue + closing }
  | .expense => { snapshot with total_expenses := snapshot.total_expenses + closing }

def add_balance (balance : AccountBalance) : BalanceSnapshot :=
  let counted := snapshot.addClosing balance.closing_balance balance.account_type
  { counted with balances := counted.balances.insert balance.account_code balance }
    |>.recalculate_totals

def add_balances (balances : List AccountBalance) : BalanceSnapshot :=
  balances.foldl add_balance snapshot

end BalanceSnapshot

section Totals

/-- The totals of a snapshot. -/
inductive Total where
  | assets
  | liabilities
  | equity
  | revenue
  | expenses
deriving DecidableEq

def BalanceSnapshot.total (snapshot : BalanceSnapshot) : Total → ℚ
  | .assets => snapshot.total_assets
  | .liabilities => snapshot.total_liabilities
  | .equity => snapshot.total_equity
  | .revenue => snapshot.total_revenue
  | .expenses => snapshot.total_expenses

def Total.ofType : AccountType → Total
  | .asset | .contraAsset => .assets
  | .liability | .contraLiability => .liabilities
  | .equity | .contraEquity => .equity
  | .revenue => .revenue
  | .expense => .expenses

/-- Contra accounts lower the total of their type. -/
def signed : AccountType → ℚ → ℚ
  | .contraAsset, closing | .contraLiability, closing | .contraEquity, closing => -closing
  | _, closing => closing

/-- What an account counts for in a total. -/
def share (total : Total) (balance : AccountBalance) : ℚ :=
  if Total.ofType balance.account_type = total then
    signed balance.account_type balance.closing_balance
  else 0

theorem share_eq_zero_iff {balance : AccountBalance} :
    (∀ total, share total balance = 0) ↔ balance.closing_balance = 0 := by
  have hsigned : ∀ type closing, signed type closing = 0 ↔ closing = 0 := by
    intro type closing
    cases type <;> simp [signed]
  constructor
  · intro h
    have hown := h (Total.ofType balance.account_type)
    rw [share, if_pos rfl] at hown
    exact (hsigned _ _).mp hown
  · intro h total
    rw [share, (hsigned _ _).mpr h, ite_self]

/-- The total over the accounts that the snapshot has. -/
def BalanceSnapshot.sumOf (snapshot : BalanceSnapshot) (total : Total) : ℚ :=
  snapshot.balances.sumOver fun _ balance => share total balance

/-- The flag that the totals call for. -/
def BalanceSnapshot.balancedFlag (snapshot : BalanceSnapshot) : Bool :=
  |snapshot.total_assets - snapshot.total_liabilities -
    (snapshot.total_equity + (snapshot.total_revenue - snapshot.total_expenses))| < 1 / 100

structure Consistent (snapshot : BalanceSnapshot) : Prop where
  total_eq : ∀ total, snapshot.total total = snapshot.sumOf total
  is_balanced_eq : snapshot.is_balanced = snapshot.balancedFlag

theorem consistent_new (snapshot_id company_code : String) (as_of_date : Date) (fiscal_year : ℤ)
    (fiscal_period : ℕ) (currency : String) :
    Consistent (.new snapshot_id company_code as_of_date fiscal_year fiscal_period currency) where
  total_eq total := by cases total <;> rfl
  is_balanced_eq := by
    norm_num [BalanceSnapshot.new, BalanceSnapshot.balancedFlag]

end Totals

section Runs

variable (snapshot : BalanceSnapshot) (balance : AccountBalance)

theorem total_add_balance (total : Total) :
    (snapshot.add_balance balance).total total = snapshot.total total + share total balance := by
  rw [share]
  cases htype : balance.account_type <;> cases total <;>
    simp [BalanceSnapshot.add_balance, BalanceSnapshot.addClosing,
      BalanceSnapshot.recalculate_totals, BalanceSnapshot.total, Total.ofType, signed, htype,
      sub_eq_add_neg]

theorem balances_add_balance : (snapshot.add_balance balance).balances =
    snapshot.balances.insert balance.account_code balance := by
  rw [BalanceSnapshot.add_balance]
  cases balance.account_type <;> rfl

theorem is_balanced_add_balance :
    (snapshot.add_balance balance).is_balanced = (snapshot.add_balance balance).balancedFlag := by
  rw [BalanceSnapshot.add_balance, BalanceSnapshot.recalculate_totals,
    BalanceSnapshot.balancedFlag]

/-- The map loses the account that is replaced, the totals do not. -/
theorem sumOf_add_balance (total : Total) :
    (snapshot.add_balance balance).sumOf total = snapshot.sumOf total -
      (snapshot.balances.find? balance.account_code).elim 0 (share total) + share total balance := by
  rw [BalanceSnapshot.sumOf, balances_add_balance, BalanceSnapshot.sumOf]
  exact OrderedMap.sumOver_upsert _ _ _ _

/-- The account that a balance replaces, if there is one, has a closing balance of zero. -/
def ReplacesZero : Prop :=
  ∀ replaced, snapshot.balances.find? balance.account_code = some replaced →
    replaced.closing_balance = 0

variable {snapshot}

theorem consistent_add_balance_iff (h : Consistent snapshot) :
    Consistent (snapshot.add_balance balance) ↔ ReplacesZero snapshot balance := by
  have hstep : ∀ total, (snapshot.add_balance balance).total total =
      (snapshot.add_balance balance).sumOf total ↔
        (snapshot.balances.find? balance.account_code).elim 0 (share total) = 0 := by
    intro total
    rw [total_add_balance, sumOf_add_balance, h.total_eq, add_left_inj, eq_comm, sub_eq_self]
  have hconsistent : Consistent (snapshot.add_balance balance) ↔ ∀ total,
      (snapshot.balances.find? balance.account_code).elim 0 (share total) = 0 := by
    constructor
    · exact fun hafter total => (hstep total).mp (hafter.total_eq total)
    · exact fun hzero =>
        ⟨fun total => (hstep total).mpr (hzero total), is_balanced_add_balance snapshot balance⟩
  rw [hconsistent, ReplacesZero]
  cases snapshot.balances.find? balance.account_code with
  | none => simp
  | some replaced =>
      have hshares : (∀ total, share total replaced = 0) ↔ _ := share_eq_zero_iff
      simpa using hshares

/-- No balance of a run replaces an account that has another closing balance than zero. -/
def ReplacesOnlyZeros : BalanceSnapshot → List AccountBalance → Prop
  | _, [] => True
  | snapshot, balance :: balances =>
      ReplacesZero snapshot balance ∧ ReplacesOnlyZeros (snapshot.add_balance balance) balances

/-- A snapshot has the totals of its accounts after each of the balances. -/
theorem consistent_along_iff (snapshot : BalanceSnapshot) (balances : List AccountBalance) :
    (∀ added, added <+: balances → Consistent (snapshot.add_balances added)) ↔
      Consistent snapshot ∧ ReplacesOnlyZeros snapshot balances := by
  induction balances generalizing snapshot with
  | nil =>
      simp only [List.prefix_nil, forall_eq, ReplacesOnlyZeros, and_true]
      rfl
  | cons balance balances ih =>
      have hsplit : (∀ added, added <+: balance :: balances →
          Consistent (snapshot.add_balances added)) ↔
            Consistent snapshot ∧ ∀ added, added <+: balances →
              Consistent ((snapshot.add_balance balance).add_balances added) := by
        constructor
        · intro h
          refine ⟨h [] List.nil_prefix, fun added hadded => ?_⟩
          exact h (balance :: added) (List.cons_prefix_cons.mpr ⟨rfl, hadded⟩)
        · rintro ⟨hfirst, hrest⟩ added hadded
          rcases List.prefix_cons_iff.mp hadded with rfl | ⟨rest, rfl, hprefix⟩
          · exact hfirst
          · exact hrest rest hprefix
      rw [hsplit, ih, ReplacesOnlyZeros]
      apply and_congr_right
      intro h
      rw [consistent_add_balance_iff balance h]

def cashBalance (closing_balance : ℚ) : AccountBalance :=
  { AccountBalance.new "1000" "1100" .asset "USD" 2024 1 with closing_balance := closing_balance }

/-- A balance of an account that is given twice counts twice. -/
theorem corrected_balance_counts_twice :
    ¬ Consistent ((BalanceSnapshot.new "S1" "1000" (.ofYmd 2024 1 31) 2024 1 "USD").add_balances
      [cashBalance 100, cashBalance 150]) := by
  intro h
  have hfirst := (consistent_add_balance_iff (cashBalance 100)
    (consistent_new "S1" "1000" (.ofYmd 2024 1 31) 2024 1 "USD")).mpr fun replaced h => nomatch h
  have hzero := (consistent_add_balance_iff (cashBalance 150) hfirst).mp h (cashBalance 100) (by
    rw [balances_add_balance]
    exact OrderedMap.find?_upsert_self _ _ _)
  exact absurd hzero (by decide)

end Runs

end Datasynth.Core.BalanceSnapshots
