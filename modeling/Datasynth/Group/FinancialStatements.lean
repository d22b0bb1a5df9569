import Datasynth.Group.NciMeasurement
import Datasynth.Group.EntityAggregation
import Mathlib.Data.List.Permutation
import Mathlib.Tactic.Linarith

/-!
The consolidated balance sheet and income statement.  The balance sheet selects
accounts by their type, the income statement by the number in their code.
-/

namespace Datasynth.Group.FinancialStatements

open Datasynth.Core.TrialBalances
open Datasynth.Group.Config
open Datasynth.Group.NciMeasurement
open Datasynth.Group.PreElimination
open Datasynth.Lib.CivilCalendar
open Datasynth.Lib.SortedEntries

structure AccountNameDictionary where
  map : OrderedMap String String

def AccountNameDictionary.get (names : AccountNameDictionary) (code : String) : String :=
  (names.map.find? code).getD code

/-- Whether a code is a number of the range. -/
def codeIn (lo hi : ℕ) (code : String) : Bool :=
  (parse_u32 code).any fun n => lo ≤ n && n ≤ hi

section BalanceSheet

structure BsLine where
  account_code : String
  account_name : String
  amount : ℚ
deriving DecidableEq

structure ConsolidatedBalanceSheet where
  group_id : String
  as_of_date : Date
  currency : String
  current_assets : List BsLine
  non_current_assets : List BsLine
  current_liabilities : List BsLine
  non_current_liabilities : List BsLine
  equity : List BsLine
  nci : List BsLine
  total_assets : ℚ
  total_liabilities : ℚ
  total_equity : ℚ
  total_nci : ℚ
  total_liabilities_plus_equity_plus_nci : ℚ
deriving DecidableEq

inductive BsSection where
  | currentAsset
  | nonCurrentAsset
  | currentLiability
  | nonCurrentLiability
  | equity
  | nci
  | excluded
deriving DecidableEq, Repr

def classify_bs_section_from_account (code : String) (account_type : AccountType) : BsSection :=
  match account_type with
  | .asset | .contraAsset =>
      if code.toList.head? = some '0' || codeIn 1500 1999 code ||
          code.toList.head? = some '2' && codeIn 200000 999999 code then .nonCurrentAsset
      else .currentAsset
  | .liability | .contraLiability =>
      if codeIn 2300 2999 code then .nonCurrentLiability else .currentLiability
  | .equity | .contraEquity => if codeIn 3500 3599 code then .nci else .equity
  | .revenue | .expense => .excluded

/-- Assets are presented as debits, liabilities and equity as credits. -/
def BsSection.sign : BsSection → ℚ
  | .currentAsset | .nonCurrentAsset => 1
  | .currentLiability | .nonCurrentLiability | .equity | .nci => -1
  | .excluded => 0

def bsLine (names : AccountNameDictionary) (bsSection : BsSection)
    (entry : String × AggregatedAccount) : BsLine where
  account_code := entry.1
  account_name := names.get entry.1
  amount :=
    match bsSection with
    | .currentAsset | .nonCurrentAsset => entry.2.debit_total - entry.2.credit_total
    | _ => entry.2.credit_total - entry.2.debit_total

def bsLines (tb : AggregatedTb) (names : AccountNameDictionary) (bsSection : BsSection) :
    List BsLine :=
  ((tb.account_totals.entries.filter fun entry =>
      classify_bs_section_from_account entry.1 entry.2.account_type = bsSection).map
    (bsLine names bsSection)).mergeSort fun a b => a.account_code ≤ b.account_code

def BsLine.sum (lines : List BsLine) : ℚ := (lines.map (·.amount)).sum

def build_consolidated_balance_sheet_with_names (post_elim_tb : AggregatedTb)
    (group_id : String) (as_of_date : Date) (account_names : AccountNameDictionary) :
    GroupResult ConsolidatedBalanceSheet :=
  let lines := bsLines post_elim_tb account_names
  let total_assets := BsLine.sum (lines .currentAsset) + BsLine.sum (lines .nonCurrentAsset)
  let total_liabilities :=
    BsLine.sum (lines .currentLiability) + BsLine.sum (lines .nonCurrentLiability)
  let total_equity := BsLine.sum (lines .equity)
  let total_nci := BsLine.sum (lines .nci)
  .ok
    { group_id
      as_of_date
      currency := post_elim_tb.currency
      current_assets := lines .currentAsset
      non_current_assets := lines .nonCurrentAsset
      current_liabilities := lines .currentLiability
      non_current_liabilities := lines .nonCurrentLiability
      equity := lines .equity
      nci := lines .nci
      total_assets
      total_liabilities
      total_equity
      total_nci
      total_liabilities_plus_equity_plus_nci := total_liabilities + total_equity + total_nci }

variable {tb : AggregatedTb} {names : AccountNameDictionary}

theorem amount_bsLine {bsSection : BsSection} (hshown : bsSection ≠ .excluded)
    (entry : String × AggregatedAccount) :
    (bsLine names bsSection entry).amount = bsSection.sign * entry.2.net := by
  cases bsSection with
  | currentAsset | nonCurrentAsset => exact (one_mul _).symm
  | excluded => exact absurd rfl hshown
  | _ => simp [bsLine, BsSection.sign, AggregatedAccount.net]

/-- Sorting plays no part in a section's sum. -/
theorem sum_bsLines {bsSection : BsSection} (hshown : bsSection ≠ .excluded) :
    BsLine.sum (bsLines tb names bsSection) = tb.weighted fun code account_type =>
      if classify_bs_section_from_account code account_type = bsSection then bsSection.sign
      else 0 := by
  have hsum : BsLine.sum (bsLines tb names bsSection) =
      ((tb.account_totals.entries.filter fun entry =>
        classify_bs_section_from_account entry.1 entry.2.account_type = bsSection).map
          fun entry => bsSection.sign * entry.2.net).sum := by
    rw [BsLine.sum, bsLines, ((List.mergeSort_perm _ _).map _).sum_eq, List.map_map]
    simp only [Function.comp_def, amount_bsLine hshown]
  rw [hsum, AggregatedTb.weighted, ← OrderedMap.sumOver_ite tb.account_totals
    (fun code account => classify_bs_section_from_account code account.account_type = bsSection)
    (fun _ account => bsSection.sign * account.net)]
  simp only [decide_eq_true_eq, ite_mul, zero_mul]

theorem isAssetSide_iff (code : String) (account_type : AccountType) :
    account_type.isAssetSide = true ↔
      classify_bs_section_from_account code account_type = .currentAsset ∨
        classify_bs_section_from_account code account_type = .nonCurrentAsset := by
  cases account_type with
  | revenue | expense => simp [classify_bs_section_from_account, AccountType.isAssetSide]
  | _ =>
      simp only [classify_bs_section_from_account, AccountType.isAssetSide]
      split <;> simp

theorem isClaim_iff (code : String) (account_type : AccountType) :
    (account_type.isBalanceSheet && !account_type.isAssetSide) = true ↔
      classify_bs_section_from_account code account_type ∈
        [.currentLiability, .nonCurrentLiability, .equity, .nci] := by
  cases account_type with
  | revenue | expense => simp [classify_bs_section_from_account, AccountType.isBalanceSheet]
  | _ =>
      simp only [classify_bs_section_from_account, AccountType.isAssetSide,
        AccountType.isBalanceSheet]
      split <;> simp

theorem isNci_iff (code : String) (account_type : AccountType) :
    (account_type.isEquitySide && codeIn 3500 3599 code) = true ↔
      classify_bs_section_from_account code account_type = .nci := by
  cases account_type with
  | revenue | expense => simp [classify_bs_section_from_account, AccountType.isEquitySide]
  | _ =>
      simp only [classify_bs_section_from_account, AccountType.isEquitySide]
      split <;> simp_all

variable {group_id : String} {as_of_date : Date} {bs : ConsolidatedBalanceSheet}

theorem total_assets_eq
    (h : build_consolidated_balance_sheet_with_names tb group_id as_of_date names = .ok bs) :
    bs.total_assets =
      tb.weighted fun _ account_type => if account_type.isAssetSide then 1 else 0 := by
  cases h
  simp only
  rw [sum_bsLines (by decide), sum_bsLines (by decide), ← weighted_add]
  refine congrArg tb.weighted (funext fun code => funext fun account_type => ?_)
  simp only [isAssetSide_iff code]
  generalize classify_bs_section_from_account code account_type = bsSection
  cases bsSection <;> simp [BsSection.sign]

theorem total_nci_eq
    (h : build_consolidated_balance_sheet_with_names tb group_id as_of_date names = .ok bs) :
    bs.total_nci = tb.weighted fun code account_type =>
      if account_type.isEquitySide && codeIn 3500 3599 code then -1 else 0 := by
  cases h
  simp only
  rw [sum_bsLines (by decide)]
  simp only [isNci_iff, BsSection.sign]

theorem total_claims_eq
    (h : build_consolidated_balance_sheet_with_names tb group_id as_of_date names = .ok bs) :
    bs.total_liabilities + bs.total_equity + bs.total_nci =
      tb.weighted fun _ account_type =>
        if account_type.isBalanceSheet && !account_type.isAssetSide then -1 else 0 := by
  cases h
  simp only
  rw [sum_bsLines (by decide), sum_bsLines (by decide), sum_bsLines (by decide),
    sum_bsLines (by decide), ← weighted_add, ← weighted_add, ← weighted_add]
  refine congrArg tb.weighted (funext fun code => funext fun account_type => ?_)
  simp only [isClaim_iff code]
  generalize classify_bs_section_from_account code account_type = bsSection
  cases bsSection <;> simp [BsSection.sign]

end BalanceSheet

section IncomeStatement

structure IsLine where
  account_code : String
  account_name : String
  amount : ℚ
deriving DecidableEq

structure ConsolidatedIncomeStatement where
  group_id : String
  period_end : Date
  currency : String
  revenue : List IsLine
  cost_of_goods_sold : List IsLine
  gross_profit : ℚ
  operating_expenses : List IsLine
  operating_income : ℚ
  other_income_expense : List IsLine
  net_income_before_tax : ℚ
  tax_expense : ℚ
  net_income : ℚ
  net_income_to_owners : ℚ
  net_income_to_nci : ℚ
deriving DecidableEq

inductive IsSection where
  | revenue
  | cogs
  | opex
  | other
  | tax
  | excluded
deriving DecidableEq, Repr

def classify_is_section (code : String) : IsSection :=
  if codeIn 4000 4499 code then .revenue
  else if codeIn 4500 4999 code then .other
  else if codeIn 5000 5099 code then .cogs
  else if codeIn 5100 6999 code then .opex
  else if codeIn 7000 7999 code then .other
  else if codeIn 8000 8499 code then .tax
  else .excluded

/-- Costs and tax are presented as debits, income as credits. -/
def isLine (names : AccountNameDictionary) (isSection : IsSection)
    (entry : String × AggregatedAccount) : IsLine where
  account_code := entry.1
  account_name := names.get entry.1
  amount :=
    match isSection with
    | .cogs | .opex | .tax => entry.2.debit_total - entry.2.credit_total
    | _ => entry.2.credit_total - entry.2.debit_total

def collectIsLines (tb : AggregatedTb) (names : AccountNameDictionary) (isSection : IsSection) :
    List IsLine :=
  (tb.account_totals.entries.filter fun entry => classify_is_section entry.1 = isSection).map
    (isLine names isSection)

def isLines (tb : AggregatedTb) (names : AccountNameDictionary) (isSection : IsSection) :
    List IsLine :=
  (collectIsLines tb names isSection).mergeSort fun a b => a.account_code ≤ b.account_code

def IsLine.sum (lines : List IsLine) : ℚ := (lines.map (·.amount)).sum

def build_consolidated_income_statement_with_names (post_elim_tb : AggregatedTb)
    (nci_rollforwards : List NciRollforward) (group_id : String) (period_end : Date)
    (account_names : AccountNameDictionary) : GroupResult ConsolidatedIncomeStatement :=
  let lines := isLines post_elim_tb account_names
  let tax_total := IsLine.sum (collectIsLines post_elim_tb account_names .tax)
  let gross_profit := IsLine.sum (lines .revenue) - IsLine.sum (lines .cogs)
  let operating_income := gross_profit - IsLine.sum (lines .opex)
  let net_income_before_tax := operating_income + IsLine.sum (lines .other)
  let net_income := net_income_before_tax - tax_total
  let net_income_to_nci := (nci_rollforwards.map (·.nci_share_of_profit)).sum
  .ok
    { group_id
      period_end
      currency := post_elim_tb.currency
      revenue := lines .revenue
      cost_of_goods_sold := lines .cogs
      gross_profit
      operating_expenses := lines .opex
      operating_income
      other_income_expense := lines .other
      net_income_before_tax
      tax_expense := tax_total
      net_income
      net_income_to_owners := net_income - net_income_to_nci
      net_income_to_nci }

variable {tb : AggregatedTb} {names : AccountNameDictionary}

/-- The net income contribution of a section's lines. -/
def contribution (isSection : IsSection) (amount : ℚ) : ℚ :=
  match isSection with
  | .cogs | .opex | .tax => -amount
  | _ => amount

theorem contribution_amount_isLine (isSection : IsSection) (entry : String × AggregatedAccount) :
    contribution isSection (isLine names isSection entry).amount = -entry.2.net := by
  cases isSection <;> simp [contribution, isLine, AggregatedAccount.net]

theorem contribution_sum (isSection : IsSection) (lines : List IsLine) :
    contribution isSection (IsLine.sum lines) =
      (lines.map fun line => contribution isSection line.amount).sum := by
  induction lines with
  | nil => cases isSection <;> rfl
  | cons line lines ih =>
      rw [List.map_cons, List.sum_cons, ← ih]
      cases isSection <;> simp only [IsLine.sum, contribution, List.map_cons, List.sum_cons,
        neg_add]

theorem sum_collectIsLines (tb : AggregatedTb) (names : AccountNameDictionary)
    (isSection : IsSection) :
    contribution isSection (IsLine.sum (collectIsLines tb names isSection)) =
      tb.weighted fun code _ => if classify_is_section code = isSection then -1 else 0 := by
  rw [contribution_sum, collectIsLines, List.map_map]
  simp only [Function.comp_def, contribution_amount_isLine]
  rw [AggregatedTb.weighted, ← OrderedMap.sumOver_ite tb.account_totals
    (fun code _ => classify_is_section code = isSection) (fun _ account => -account.net)]
  simp only [decide_eq_true_eq, ite_mul, neg_one_mul, zero_mul]

theorem sum_isLines (tb : AggregatedTb) (names : AccountNameDictionary)
    (isSection : IsSection) :
    contribution isSection (IsLine.sum (isLines tb names isSection)) =
      tb.weighted fun code _ => if classify_is_section code = isSection then -1 else 0 := by
  rw [← sum_collectIsLines tb names, IsLine.sum, isLines,
    ((List.mergeSort_perm _ _).map _).sum_eq, IsLine.sum]

theorem classify_is_section_eq_excluded_iff (code : String) :
    classify_is_section code = .excluded ↔ codeIn 4000 8499 code = false := by
  cases hcode : parse_u32 code with
  | none => simp [classify_is_section, codeIn, hcode]
  | some n =>
      simp only [classify_is_section, codeIn, hcode, Option.any_some, Bool.and_eq_true,
        decide_eq_true_eq, Bool.and_eq_false_iff, decide_eq_false_iff_not]
      split_ifs <;> simp <;> omega

theorem net_income_eq {nci_rollforwards : List NciRollforward} {group_id : String}
    {period_end : Date} {statement : ConsolidatedIncomeStatement}
    (h : build_consolidated_income_statement_with_names tb nci_rollforwards group_id period_end
      names = .ok statement) :
    statement.net_income = tb.weighted fun code _ => if codeIn 4000 8499 code then -1 else 0 := by
  cases h
  simp only
  have hrevenue := sum_isLines tb names .revenue
  have hcogs := sum_isLines tb names .cogs
  have hopex := sum_isLines tb names .opex
  have hother := sum_isLines tb names .other
  have htax := sum_collectIsLines tb names .tax
  simp only [contribution] at hrevenue hcogs hopex hother htax
  have hsplit : tb.weighted (fun code _ => if codeIn 4000 8499 code then -1 else 0) =
      tb.weighted (fun code _ => (if classify_is_section code = .revenue then -1 else 0) +
        (if classify_is_section code = .cogs then -1 else 0) +
        (if classify_is_section code = .opex then -1 else 0) +
        (if classify_is_section code = .other then -1 else 0) +
        (if classify_is_section code = .tax then -1 else 0)) := by
    refine congrArg tb.weighted (funext fun code => funext fun _ => ?_)
    have hexcluded := classify_is_section_eq_excluded_iff code
    generalize classify_is_section code = isSection at *
    cases isSection <;> simp_all
  rw [hsplit, weighted_add, weighted_add, weighted_add, weighted_add]
  linarith

end IncomeStatement

section Reconciliation

variable (tb : AggregatedTb) (nci_rollforwards : List NciRollforward) (group_id : String)
  (date : Date) (names : AccountNameDictionary)

/-- The assets exceed the claims on them by the net income. -/
def StatementsReconcile : Prop :=
  ∃ bs statement,
    build_consolidated_balance_sheet_with_names tb group_id date names = .ok bs ∧
      build_consolidated_income_statement_with_names tb nci_rollforwards group_id date names =
        .ok statement ∧
      bs.total_assets - (bs.total_liabilities + bs.total_equity + bs.total_nci) =
        statement.net_income

/-- The net balance of the accounts that both statements show. -/
def shownTwice : ℚ :=
  tb.weighted fun code account_type =>
    if account_type.isBalanceSheet && codeIn 4000 8499 code then 1 else 0

/-- The net balance of the accounts that neither statement shows. -/
def shownNowhere : ℚ :=
  tb.weighted fun code account_type =>
    if account_type.isBalanceSheet || codeIn 4000 8499 code then 0 else 1

/-- The accounts' balances, split by the statements that show them. -/
theorem weighted_statements :
    tb.weighted (fun _ account_type => if account_type.isAssetSide then 1 else 0) -
        tb.weighted (fun _ account_type =>
          if account_type.isBalanceSheet && !account_type.isAssetSide then -1 else 0) -
        tb.weighted (fun code _ => if codeIn 4000 8499 code then -1 else 0) =
      tb.weighted (fun _ _ => 1) + (shownTwice tb - shownNowhere tb) := by
  rw [shownTwice, shownNowhere, ← weighted_sub, ← weighted_sub, ← weighted_sub, ← weighted_add]
  refine congrArg tb.weighted (funext fun code => funext fun account_type => ?_)
  generalize codeIn 4000 8499 code = onIncomeStatement
  cases account_type <;> cases onIncomeStatement <;>
    norm_num [AccountType.isAssetSide, AccountType.isBalanceSheet]

theorem exists_balance_sheet : ∃ bs,
    build_consolidated_balance_sheet_with_names tb group_id date names = .ok bs := ⟨_, rfl⟩

theorem exists_income_statement : ∃ statement,
    build_consolidated_income_statement_with_names tb nci_rollforwards group_id date names =
      .ok statement := ⟨_, rfl⟩

variable {tb nci_rollforwards group_id date names}

/-- What keeps the statements of a balanced trial balance from reconciling. -/
theorem reconciliation_gap (hbalanced : (recompute_totals tb).1 = (recompute_totals tb).2)
    {bs : ConsolidatedBalanceSheet} {statement : ConsolidatedIncomeStatement}
    (hbs : build_consolidated_balance_sheet_with_names tb group_id date names = .ok bs)
    (hstatement : build_consolidated_income_statement_with_names tb nci_rollforwards group_id date
      names = .ok statement) :
    bs.total_assets - (bs.total_liabilities + bs.total_equity + bs.total_nci) -
      statement.net_income = shownTwice tb - shownNowhere tb := by
  rw [total_assets_eq hbs, total_claims_eq hbs, net_income_eq hstatement, weighted_statements,
    weighted_one, hbalanced, sub_self, zero_add]

/-- Over a balanced trial balance the statements reconcile exactly when the accounts
shown twice and those shown nowhere have the same net balance. -/
theorem statementsReconcile_iff (hbalanced : (recompute_totals tb).1 = (recompute_totals tb).2) :
    StatementsReconcile tb nci_rollforwards group_id date names ↔
      shownTwice tb = shownNowhere tb := by
  constructor
  · rintro ⟨bs, statement, hbs, hstatement, hreconcile⟩
    have hgap := reconciliation_gap hbalanced hbs hstatement
    rw [hreconcile, sub_self] at hgap
    linarith
  · intro hshown
    obtain ⟨bs, hbs⟩ := exists_balance_sheet tb group_id date names
    obtain ⟨statement, hstatement⟩ :=
      exists_income_statement tb nci_rollforwards group_id date names
    have hgap := reconciliation_gap hbalanced hbs hstatement
    exact ⟨bs, statement, hbs, hstatement, by linarith⟩

end Reconciliation

def sampleTb (accounts : List AggregatedAccount) : AggregatedTb where
  group_id := "GROUP"
  currency := "EUR"
  as_of_date := Date.ofYmd 2024 12 31
  account_totals := OrderedMap.ofList (accounts.map fun account => (account.account_code, account))
  contributing_entities := ["P"]
  deferred_entities := []
  total_debits := (accounts.map (·.debit_total)).sum
  total_credits := (accounts.map (·.credit_total)).sum

theorem cash_sale_reconciles :
    StatementsReconcile
      (sampleTb [⟨"1000", 100, 0, 100, 1, .asset⟩, ⟨"4000", 0, 100, -100, 1, .revenue⟩])
      [] "GROUP" (Date.ofYmd 2024 12 31) ⟨OrderedMap.empty⟩ :=
  (statementsReconcile_iff (by decide +kernel)).mpr (by decide +kernel)

/-- Purchases under the French chart of accounts are on neither statement. -/
theorem pcg_purchases_do_not_reconcile :
    ∃ tb : AggregatedTb, (recompute_totals tb).1 = (recompute_totals tb).2 ∧
      ¬ StatementsReconcile tb [] "GROUP" (Date.ofYmd 2024 12 31) ⟨OrderedMap.empty⟩ := by
  refine ⟨sampleTb [⟨"512000", 0, 100, -100, 1, .asset⟩, ⟨"607000", 100, 0, 100, 1, .expense⟩],
    by decide_cbv, ?_⟩
  rintro ⟨bs, statement, hbs, hstatement, hreconcile⟩
  rw [total_assets_eq hbs, total_claims_eq hbs, net_income_eq hstatement] at hreconcile
  exact absurd hreconcile (by decide +kernel)

end Datasynth.Group.FinancialStatements
