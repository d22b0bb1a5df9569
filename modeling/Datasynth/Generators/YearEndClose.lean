import Mathlib.Algebra.Order.Field.Rat
import Mathlib.Data.String.Basic
import Mathlib.Tactic.Ring
import Datasynth.Core.JournalEntries
import Datasynth.Lib.HashIteration

/-!
Year-end closing entries: revenue and expense accounts to income summary, income summary and
dividends to retained earnings.
-/

namespace Datasynth.Generators.YearEndClose

open Datasynth.Core.JournalEntries
open Datasynth.Lib.CivilCalendar
open Datasynth.Lib.HashIteration
open Datasynth.Lib.SignedPostings
open Datasynth.Lib.SortedEntries

section Model

structure YearEndCloseConfig where
  income_summary_account : String
  retained_earnings_account : String

def YearEndCloseConfig.default : YearEndCloseConfig := ⟨"3600", "3200"⟩

structure YearEndClosingSpec where
  revenue_accounts : List String
  expense_accounts : List String
  income_summary_account : String
  retained_earnings_account : String
  dividend_account : Option String

def YearEndClosingSpec.default : YearEndClosingSpec where
  revenue_accounts := ["4"]
  expense_accounts := ["5", "6"]
  income_summary_account := "3500"
  retained_earnings_account := "3300"
  dividend_account := some "3400"

structure YearEndCloseResult where
  company_code : String
  fiscal_year : ℤ
  closing_entries : List JournalEntry
  total_revenue_closed : ℚ
  total_expense_closed : ℚ
  net_income : ℚ
  retained_earnings_impact : ℚ

/-- Balances by account: of revenue accounts on the credit side, of others on the debit side. -/
abbrev TrialBalance := OrderedMap String ℚ

def new_simple (company_code : String) (posting_date : Date) (description : String) :
    JournalEntry :=
  .new { JournalEntryHeader.new company_code posting_date with header_text := some description }

def starts_with_any (prefixes : List String) (account : String) : Bool :=
  prefixes.any fun text => text.toList.isPrefixOf account.toList

/-- The accounts with some prefix and a balance, in the order of iteration. -/
def matching (order : HashOrder) (trial_balance : TrialBalance) (prefixes : List String) :
    List (String × ℚ) :=
  (order.iter trial_balance.entries).filter fun e => starts_with_any prefixes e.1 && e.2 ≠ 0

variable (order : HashOrder) (config : YearEndCloseConfig) (company_code : String)
  (closing_date : Date) (trial_balance : TrialBalance) (spec : YearEndClosingSpec)

def close_revenue_accounts : JournalEntry × ℚ :=
  let je := new_simple company_code closing_date "Year-End Close: Revenue to Income Summary"
  let revenue_lines := matching order trial_balance spec.revenue_accounts
  let total_revenue := (revenue_lines.map Prod.snd).sum
  let je := (revenue_lines.zipIdx 1).foldl (fun je e => je.add_line (.debit e.2 e.1.1 e.1.2)) je
  let je := if total_revenue ≠ 0 then
    je.add_line (.credit (revenue_lines.length + 1) spec.income_summary_account total_revenue)
    else je
  (je, total_revenue)

def close_expense_accounts : JournalEntry × ℚ :=
  let je := new_simple company_code closing_date "Year-End Close: Expenses to Income Summary"
  let expense_lines := matching order trial_balance spec.expense_accounts
  let total_expenses := (expense_lines.map Prod.snd).sum
  let je := if total_expenses ≠ 0 then
    je.add_line (.debit 1 spec.income_summary_account total_expenses) else je
  let line_num := if total_expenses ≠ 0 then 2 else 1
  let je := (expense_lines.zipIdx line_num).foldl
    (fun je e => je.add_line (.credit e.2 e.1.1 e.1.2)) je
  (je, total_expenses)

def close_income_summary (net_income : ℚ) : JournalEntry :=
  let je :=
    new_simple company_code closing_date "Year-End Close: Income Summary to Retained Earnings"
  if 0 < net_income then
    (je.add_line (.debit 1 config.income_summary_account net_income)).add_line
      (.credit 2 config.retained_earnings_account net_income)
  else if net_income < 0 then
    (je.add_line (.debit 1 config.retained_earnings_account |net_income|)).add_line
      (.credit 2 config.income_summary_account |net_income|)
  else je

def close_dividends (dividend_amount : ℚ) (dividend_account : String) : JournalEntry :=
  let je := new_simple company_code closing_date "Year-End Close: Dividends to Retained Earnings"
  (je.add_line (.debit 1 config.retained_earnings_account dividend_amount)).add_line
    (.credit 2 dividend_account dividend_amount)

/-- The closing entries; none, where the source panics, if the calendar does not have the year. -/
def generate_year_end_close (fiscal_year : ℤ) : Option YearEndCloseResult :=
  if yearInRange fiscal_year then
    let closing_date := Date.ofYmd fiscal_year 12 31
    let revenue := close_revenue_accounts order company_code closing_date trial_balance spec
    let expense := close_expense_accounts order company_code closing_date trial_balance spec
    let net_income := revenue.2 - expense.2
    let income_summary_je := close_income_summary config company_code closing_date net_income
    let closed : YearEndCloseResult :=
      ⟨company_code, fiscal_year, [revenue.1, expense.1, income_summary_je], revenue.2, expense.2,
        net_income, net_income⟩
    match spec.dividend_account with
    | none => some closed
    | some dividend_account =>
        match trial_balance.find? dividend_account with
        | none => some closed
        | some dividend_balance =>
            if dividend_balance ≠ 0 then
              some { closed with
                closing_entries := closed.closing_entries ++
                  [close_dividends config company_code closing_date dividend_balance
                    dividend_account]
                retained_earnings_impact := net_income - dividend_balance }
            else some closed
  else none

end Model

section Postings

variable {order : HashOrder} {config : YearEndCloseConfig} {company_code : String}
  {closing_date : Date} {trial_balance : TrialBalance} {spec : YearEndClosingSpec}

def balance (trial_balance : TrialBalance) (account : String) : ℚ :=
  (trial_balance.find? account).getD 0

/-- The balances of the accounts with some prefix. -/
def totalMatching (trial_balance : TrialBalance) (prefixes : List String) : ℚ :=
  trial_balance.sumOver fun account amount =>
    if starts_with_any prefixes account then amount else 0

theorem sum_map_filter_matching (prefixes : List String) (f : String × ℚ → ℚ)
    (hf : ∀ e, e.2 = 0 → f e = 0) :
    ((matching order trial_balance prefixes).map f).sum =
      trial_balance.sumOver fun account amount =>
        if starts_with_any prefixes account then f (account, amount) else 0 := by
  have hperm := order.perm trial_balance.entries
  rw [matching, OrderedMap.sumOver_ite, ((hperm.filter _).map f).sum_eq]
  induction trial_balance.entries with
  | nil => rfl
  | cons e entries ih =>
      by_cases hmatch : starts_with_any prefixes e.1 = true
      · rw [List.filter_cons_of_pos (p := fun e : String × ℚ => starts_with_any prefixes e.1) hmatch,
          List.map_cons, List.sum_cons, ← ih]
        by_cases hzero : e.2 = 0
        · rw [List.filter_cons_of_neg (by simp [hzero]), hf e hzero, zero_add]
        · rw [List.filter_cons_of_pos (by simp [hmatch, hzero]), List.map_cons, List.sum_cons]
      · rw [List.filter_cons_of_neg (p := fun e : String × ℚ => starts_with_any prefixes e.1) hmatch,
          List.filter_cons_of_neg (by simp [hmatch]), ih]

theorem sum_matching (prefixes : List String) :
    ((matching order trial_balance prefixes).map Prod.snd).sum =
      totalMatching trial_balance prefixes :=
  sum_map_filter_matching prefixes Prod.snd fun _ h => h

theorem netOn_matching (prefixes : List String) (account : String) :
    netOn account (matching order trial_balance prefixes) =
      if starts_with_any prefixes account then balance trial_balance account else 0 := by
  rw [netOn, sum_map_filter_matching prefixes _ fun e h => by rw [h, ite_self]]
  have hsingle : (trial_balance.sumOver fun key amount =>
      if starts_with_any prefixes key then (if key = account then amount else 0) else 0) =
      trial_balance.sumOver fun key amount =>
        if key = account then (if starts_with_any prefixes account then amount else 0) else 0 := by
    apply OrderedMap.sumOver_congr
    intro key amount _
    by_cases hkey : key = account
    · rw [hkey, if_pos rfl, if_pos rfl]
    · rw [if_neg hkey, if_neg hkey, ite_self]
  rw [hsingle, OrderedMap.sumOver_single, balance]
  cases trial_balance.find? account with
  | none => simp
  | some amount => rfl

theorem lines_foldl_add_line {α : Type*} (line : α → JournalEntryLine) (rows : List α)
    (je : JournalEntry) :
    (rows.foldl (fun je a => je.add_line (line a)) je).lines = je.lines ++ rows.map line := by
  induction rows generalizing je with
  | nil => simp
  | cons a rows ih => simp [ih]

/-- Numbering the lines does not change what they add up to. -/
theorem map_zipIdx_fst {α β : Type*} (f : α → β) (rows : List α) (n : ℕ) :
    (rows.zipIdx n).map (fun e => f e.1) = rows.map f := by
  show (rows.zipIdx n).map (f ∘ Prod.fst) = _
  rw [← List.map_map, List.zipIdx_map_fst]

theorem revenue_lines :
    (close_revenue_accounts order company_code closing_date trial_balance spec).1.lines =
      ((matching order trial_balance spec.revenue_accounts).zipIdx 1).map
          (fun e => .debit e.2 e.1.1 e.1.2) ++
        if totalMatching trial_balance spec.revenue_accounts ≠ 0 then
          [.credit ((matching order trial_balance spec.revenue_accounts).length + 1)
            spec.income_summary_account (totalMatching trial_balance spec.revenue_accounts)]
        else [] := by
  rw [close_revenue_accounts, sum_matching]
  dsimp only
  split
  · rw [JournalEntry.add_line_lines, lines_foldl_add_line]
    rfl
  · rw [lines_foldl_add_line, List.append_nil]
    rfl

theorem expense_lines :
    (close_expense_accounts order company_code closing_date trial_balance spec).1.lines =
      (if totalMatching trial_balance spec.expense_accounts ≠ 0 then
          [.debit 1 spec.income_summary_account (totalMatching trial_balance spec.expense_accounts)]
        else []) ++
        ((matching order trial_balance spec.expense_accounts).zipIdx
          (if totalMatching trial_balance spec.expense_accounts ≠ 0 then 2 else 1)).map
          fun e => .credit e.2 e.1.1 e.1.2 := by
  rw [close_expense_accounts, sum_matching]
  dsimp only
  rw [lines_foldl_add_line]
  split
  · rw [JournalEntry.add_line_lines]
    rfl
  · rfl

/-- The revenue entry debits the revenue accounts and credits income summary. -/
theorem netOn_revenue (account : String) :
    netOn account (close_revenue_accounts order company_code closing_date trial_balance
        spec).1.postings =
      (if starts_with_any spec.revenue_accounts account then balance trial_balance account else 0) -
        if account = spec.income_summary_account then
          totalMatching trial_balance spec.revenue_accounts else 0 := by
  have hrows : ((matching order trial_balance spec.revenue_accounts).zipIdx 1).map
      (fun e => (e.1.1, e.1.2 - 0)) = matching order trial_balance spec.revenue_accounts := by
    rw [map_zipIdx_fst fun e : String × ℚ => (e.1, e.2 - 0)]
    simp
  rw [JournalEntry.postings, revenue_lines, List.map_append, netOn_append, List.map_map,
    ← @netOn_matching order, sub_eq_add_neg]
  congr 1
  · exact congrArg (netOn account) hrows
  · by_cases htotal : totalMatching trial_balance spec.revenue_accounts = 0
    · rw [htotal, if_neg (not_not_intro rfl), ite_self, neg_zero]
      rfl
    · rw [if_pos htotal, List.map_singleton, netOn_cons, netOn_nil, add_zero, apply_ite Neg.neg,
        neg_zero, eq_comm]
      simp only [JournalEntryLine.credit, zero_sub, eq_comm]

/-- The expense entry debits income summary and credits the expense accounts. -/
theorem netOn_expense (account : String) :
    netOn account (close_expense_accounts order company_code closing_date trial_balance
        spec).1.postings =
      (if account = spec.income_summary_account then
          totalMatching trial_balance spec.expense_accounts else 0) -
        if starts_with_any spec.expense_accounts account then balance trial_balance account
        else 0 := by
  have hrows : ∀ n, ((matching order trial_balance spec.expense_accounts).zipIdx n).map
      (fun e => (e.1.1, 0 - e.1.2)) =
        (matching order trial_balance spec.expense_accounts).map
          fun e => (e.1, (negAddMonoidHom : ℚ →+ ℚ) e.2) := by
    intro n
    rw [map_zipIdx_fst fun e : String × ℚ => (e.1, 0 - e.2)]
    simp
  rw [JournalEntry.postings, expense_lines, List.map_append, netOn_append, List.map_map,
    ← @netOn_matching order, sub_eq_add_neg]
  congr 1
  · by_cases htotal : totalMatching trial_balance spec.expense_accounts = 0
    · rw [htotal, if_neg (not_not_intro rfl), ite_self]
      rfl
    · rw [if_pos htotal, List.map_singleton, netOn_cons, netOn_nil, add_zero]
      simp only [JournalEntryLine.debit, sub_zero, eq_comm]
  · exact (congrArg (netOn account) (hrows _)).trans
      (netOn_map (negAddMonoidHom : ℚ →+ ℚ) account _)

/-- An entry that debits one account and credits another. -/
theorem netOn_transfer (description debited credited account : String) (amount : ℚ) :
    netOn account (((new_simple company_code closing_date description).add_line
        (.debit 1 debited amount)).add_line (.credit 2 credited amount)).postings =
      (if account = debited then amount else 0) - if account = credited then amount else 0 := by
  have hcredit : (if account = credited then 0 - amount else 0) =
      -if account = credited then amount else 0 := by
    split
    · rw [zero_sub]
    · rw [neg_zero]
  simp only [JournalEntry.postings, new_simple, JournalEntry.new, JournalEntry.add_line_lines,
    List.nil_append, List.singleton_append, List.map_cons, List.map_nil, netOn_cons, netOn_nil,
    JournalEntryLine.debit, JournalEntryLine.credit, sub_zero, add_zero, eq_comm (b := account),
    hcredit]
  rw [sub_eq_add_neg]

/-- The third entry moves net income, positive or not, between the configured accounts. -/
theorem netOn_income_summary (net_income : ℚ) (account : String) :
    netOn account (close_income_summary config company_code closing_date net_income).postings =
      (if account = config.income_summary_account then net_income else 0) -
        if account = config.retained_earnings_account then net_income else 0 := by
  rw [close_income_summary]
  split
  · exact netOn_transfer ..
  · split
    · rename_i hloss
      rw [netOn_transfer, abs_of_neg hloss]
      split <;> split <;> ring
    · rename_i hprofit hloss
      rw [le_antisymm (not_lt.mp hprofit) (not_lt.mp hloss), ite_self, ite_self, sub_zero]
      rfl

theorem netOn_dividends (amount : ℚ) (dividend_account account : String) :
    netOn account
        (close_dividends config company_code closing_date amount dividend_account).postings =
      (if account = config.retained_earnings_account then amount else 0) -
        if account = dividend_account then amount else 0 :=
  netOn_transfer ..

theorem balanced_transfer (description debited credited : String) (amount : ℚ) :
    (((new_simple company_code closing_date description).add_line
        (.debit 1 debited amount)).add_line (.credit 2 credited amount)).total_debit =
      (((new_simple company_code closing_date description).add_line
        (.debit 1 debited amount)).add_line (.credit 2 credited amount)).total_credit := by
  simp [JournalEntry.total_debit, JournalEntry.total_credit, new_simple, JournalEntry.new,
    JournalEntryLine.debit, JournalEntryLine.credit]

theorem balanced_income_summary (net_income : ℚ) :
    (close_income_summary config company_code closing_date net_income).total_debit =
      (close_income_summary config company_code closing_date net_income).total_credit := by
  rw [close_income_summary]
  split
  · exact balanced_transfer ..
  · split
    · exact balanced_transfer ..
    · rfl

theorem balanced_revenue :
    (close_revenue_accounts order company_code closing_date trial_balance spec).1.total_debit =
      (close_revenue_accounts order company_code closing_date trial_balance
        spec).1.total_credit := by
  rw [JournalEntry.total_debit, JournalEntry.total_credit, revenue_lines, List.map_append,
    List.sum_append, List.map_append, List.sum_append, List.map_map, List.map_map]
  have hdebits := map_zipIdx_fst Prod.snd (matching order trial_balance spec.revenue_accounts) 1
  have hcredits := map_zipIdx_fst (fun _ => (0 : ℚ))
    (matching order trial_balance spec.revenue_accounts) 1
  simp only [Function.comp_def, JournalEntryLine.debit]
  rw [hdebits, hcredits, sum_matching]
  split
  · simp [JournalEntryLine.credit]
  · rename_i htotal
    simp [not_not.mp htotal]

theorem balanced_expense :
    (close_expense_accounts order company_code closing_date trial_balance spec).1.total_debit =
      (close_expense_accounts order company_code closing_date trial_balance
        spec).1.total_credit := by
  rw [JournalEntry.total_debit, JournalEntry.total_credit, expense_lines, List.map_append,
    List.sum_append, List.map_append, List.sum_append, List.map_map, List.map_map]
  have hdebits := map_zipIdx_fst (fun _ => (0 : ℚ))
    (matching order trial_balance spec.expense_accounts)
  have hcredits := map_zipIdx_fst Prod.snd (matching order trial_balance spec.expense_accounts)
  simp only [Function.comp_def, JournalEntryLine.credit]
  rw [hdebits, hcredits, sum_matching]
  split
  · simp [JournalEntryLine.debit]
  · rename_i htotal
    simp [not_not.mp htotal]

end Postings

end Datasynth.Generators.YearEndClose
