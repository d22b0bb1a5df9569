import Mathlib.Tactic.Linarith
import Datasynth.Generators.YearEndClose

/-!
Which books the closing entries close.
-/

namespace Datasynth.Generators.ClosedBooks

open Datasynth.Core.JournalEntries
open Datasynth.Generators.YearEndClose
open Datasynth.Lib.CivilCalendar
open Datasynth.Lib.HashIteration
open Datasynth.Lib.SignedPostings
open Datasynth.Lib.SortedEntries

section Postings

variable (config : YearEndCloseConfig) (trial_balance : TrialBalance) (spec : YearEndClosingSpec)

/-- What the closing entries debit to an account, less what they credit. -/
def posted (result : YearEndCloseResult) (account : String) : ℚ :=
  netOn account (result.closing_entries.flatMap JournalEntry.postings)

def netIncome : ℚ :=
  totalMatching trial_balance spec.revenue_accounts -
    totalMatching trial_balance spec.expense_accounts

def dividends : ℚ := spec.dividend_account.elim 0 (balance trial_balance)

/-- What an account receives as an account that others are closed to. -/
def transferred (account : String) : ℚ :=
  (if account = config.income_summary_account then netIncome trial_balance spec else 0) -
    (if account = spec.income_summary_account then netIncome trial_balance spec else 0) -
      if account = config.retained_earnings_account then
        netIncome trial_balance spec - dividends trial_balance spec else 0

abbrev IsRevenue (account : String) : Prop := starts_with_any spec.revenue_accounts account = true

abbrev IsExpense (account : String) : Prop := starts_with_any spec.expense_accounts account = true

abbrev IsDividend (account : String) : Prop := spec.dividend_account = some account

/-- What an account receives as an account that is closed. -/
def closed (account : String) : ℚ :=
  (if IsRevenue spec account then balance trial_balance account else 0) -
    (if IsExpense spec account then balance trial_balance account else 0) -
      if IsDividend spec account then balance trial_balance account else 0

variable (order : HashOrder) (company_code : String) (fiscal_year : ℤ)

variable {config trial_balance spec order company_code} in
/-- The first three entries, whatever the dividends. -/
theorem netOn_first_entries (closing_date : Date) (account : String) :
    netOn account ([(close_revenue_accounts order company_code closing_date trial_balance spec).1,
        (close_expense_accounts order company_code closing_date trial_balance spec).1,
        close_income_summary config company_code closing_date
          (netIncome trial_balance spec)].flatMap JournalEntry.postings) =
      (if IsRevenue spec account then balance trial_balance account else 0) -
        (if IsExpense spec account then balance trial_balance account else 0) +
        ((if account = config.income_summary_account then netIncome trial_balance spec else 0) -
          (if account = spec.income_summary_account then netIncome trial_balance spec else 0) -
            if account = config.retained_earnings_account then netIncome trial_balance spec
            else 0) := by
  rw [List.flatMap_cons, List.flatMap_cons, List.flatMap_singleton, netOn_append, netOn_append,
    netOn_revenue, netOn_expense, netOn_income_summary]
  have hsummary : (if account = spec.income_summary_account then netIncome trial_balance spec
      else 0) =
        (if account = spec.income_summary_account then
          totalMatching trial_balance spec.revenue_accounts else 0) -
          if account = spec.income_summary_account then
            totalMatching trial_balance spec.expense_accounts else 0 := by
    rw [netIncome]
    split
    · rfl
    · rw [sub_zero]
  rw [hsummary]
  ring

/-- The closing entries, what they post, and what they say of retained earnings. -/
theorem exists_result (hyear : yearInRange fiscal_year = true) :
    ∃ result, generate_year_end_close order config company_code trial_balance spec fiscal_year =
        some result ∧
      (∀ entry ∈ result.closing_entries, entry.total_debit = entry.total_credit) ∧
      (∀ account, posted result account =
        closed trial_balance spec account + transferred config trial_balance spec account) ∧
      result.retained_earnings_impact =
        netIncome trial_balance spec - dividends trial_balance spec := by
  let closing_date := Date.ofYmd fiscal_year 12 31
  let revenue := close_revenue_accounts order company_code closing_date trial_balance spec
  let expense := close_expense_accounts order company_code closing_date trial_balance spec
  have hnet : revenue.2 - expense.2 = netIncome trial_balance spec := by
    rw [netIncome, ← sum_matching, ← sum_matching]
    rfl
  let entries := [revenue.1, expense.1,
    close_income_summary config company_code closing_date (netIncome trial_balance spec)]
  have hbalanced : ∀ entry ∈ entries, entry.total_debit = entry.total_credit := by
    intro entry hentry
    simp only [entries, List.mem_cons, List.not_mem_nil, or_false] at hentry
    obtain rfl | rfl | rfl := hentry
    · exact balanced_revenue
    · exact balanced_expense
    · exact balanced_income_summary _
  let base : YearEndCloseResult := ⟨company_code, fiscal_year, entries, revenue.2, expense.2,
    netIncome trial_balance spec, netIncome trial_balance spec⟩
  -- Without dividends the first three entries are all.
  have hbase : dividends trial_balance spec = 0 →
      (∀ account, IsDividend spec account → balance trial_balance account = 0) →
      generate_year_end_close order config company_code trial_balance spec fiscal_year =
        some base →
      ∃ result, generate_year_end_close order config company_code trial_balance spec fiscal_year =
          some result ∧
        (∀ entry ∈ result.closing_entries, entry.total_debit = entry.total_credit) ∧
        (∀ account, posted result account =
          closed trial_balance spec account + transferred config trial_balance spec account) ∧
        result.retained_earnings_impact =
          netIncome trial_balance spec - dividends trial_balance spec := by
    intro hdividends hzero hgenerate
    refine ⟨base, hgenerate, hbalanced, ?_, by rw [hdividends, sub_zero]⟩
    intro account
    have hdividend : (if IsDividend spec account then balance trial_balance account else 0) = 0 := by
      split
      · rename_i h
        exact hzero account h
      · rfl
    rw [closed, transferred, hdividend, hdividends, sub_zero, sub_zero]
    exact netOn_first_entries closing_date account
  cases hspec : spec.dividend_account with
  | none =>
      apply hbase (by rw [dividends, hspec]; rfl)
      · intro account hdividend
        rw [IsDividend, hspec] at hdividend
        cases hdividend
      · rw [generate_year_end_close, if_pos hyear, hspec]
        dsimp only
        rw [hnet]
  | some dividend_account =>
      have hdividend : ∀ account, IsDividend spec account ↔ account = dividend_account := by
        intro account
        rw [IsDividend, hspec, Option.some_inj, eq_comm]
      cases hfind : trial_balance.find? dividend_account with
      | none =>
          have hzero : balance trial_balance dividend_account = 0 := by rw [balance, hfind]; rfl
          apply hbase (by rw [dividends, hspec]; exact hzero)
          · intro account h
            rw [(hdividend account).mp h, hzero]
          · rw [generate_year_end_close, if_pos hyear, hspec]
            dsimp only
            rw [hfind, hnet]
      | some amount =>
          have hamount : balance trial_balance dividend_account = amount := by
            rw [balance, hfind]
            rfl
          by_cases hzero : amount = 0
          · subst hzero
            apply hbase (by rw [dividends, hspec]; exact hamount)
            · intro account h
              rw [(hdividend account).mp h, hamount]
            · rw [generate_year_end_close, if_pos hyear, hspec]
              dsimp only
              rw [hfind, hnet]
              exact if_neg (not_not_intro rfl)
          · have hdividends : dividends trial_balance spec = amount := by
              rw [dividends, hspec]
              exact hamount
            refine ⟨{ base with
              closing_entries := entries ++
                [close_dividends config company_code closing_date amount dividend_account]
              retained_earnings_impact := netIncome trial_balance spec - amount }, ?_, ?_, ?_, ?_⟩
            · rw [generate_year_end_close, if_pos hyear, hspec]
              dsimp only
              rw [hfind, hnet]
              exact if_pos hzero
            · intro entry hentry
              obtain hentry | hentry := List.mem_append.mp hentry
              · exact hbalanced entry hentry
              · rw [List.mem_singleton.mp hentry]
                exact balanced_transfer ..
            · intro account
              have hlast : (if IsDividend spec account then balance trial_balance account else 0) =
                  if account = dividend_account then amount else 0 := by
                by_cases haccount : account = dividend_account
                · rw [if_pos ((hdividend account).mpr haccount), if_pos haccount, haccount, hamount]
                · rw [if_neg (mt (hdividend account).mp haccount), if_neg haccount]
              have hearnings : (if account = config.retained_earnings_account then
                  netIncome trial_balance spec - amount else 0) =
                    (if account = config.retained_earnings_account then
                      netIncome trial_balance spec else 0) -
                      if account = config.retained_earnings_account then amount else 0 := by
                split
                · rfl
                · rw [sub_zero]
              have hfirst : netOn account (entries.flatMap JournalEntry.postings) = _ :=
                netOn_first_entries closing_date account
              rw [posted, List.flatMap_append, netOn_append, List.flatMap_singleton,
                netOn_dividends, closed, transferred, hdividends, hlast, hearnings]
              show netOn account (entries.flatMap JournalEntry.postings) + _ = _
              rw [hfirst]
              ring
            · rw [hdividends]

end Postings

section Books

/-- What closing is for: revenue accounts lose their credit balances, expense accounts and the
dividend account their debit balances, income summary is as before, and retained earnings grow by
the impact. -/
structure BooksClosed (trial_balance : TrialBalance) (spec : YearEndClosingSpec)
    (result : YearEndCloseResult) : Prop where
  balanced : ∀ entry ∈ result.closing_entries, entry.total_debit = entry.total_credit
  revenue : ∀ account, IsRevenue spec account →
    balance trial_balance account - posted result account = 0
  expense : ∀ account, IsExpense spec account →
    balance trial_balance account + posted result account = 0
  dividend : ∀ account, IsDividend spec account →
    balance trial_balance account + posted result account = 0
  income_summary : posted result spec.income_summary_account = 0
  retained_earnings :
    -posted result spec.retained_earnings_account = result.retained_earnings_impact

variable (order : HashOrder) (config : YearEndCloseConfig) (company_code : String)
  (fiscal_year : ℤ) (trial_balance : TrialBalance) (spec : YearEndClosingSpec)

def ClosesBooks : Prop :=
  ∃ result,
    generate_year_end_close order config company_code trial_balance spec fiscal_year = some result ∧
      BooksClosed trial_balance spec result

/-- The accounts play their roles apart from each other.  An account that is closed as revenue
receives nothing and has no balance to be closed otherwise; one that is closed otherwise receives
nothing, or its balance if it is closed twice; income summary receives as much as it passes on;
retained earnings receive the income that is not distributed. -/
structure RolesApart : Prop where
  year : yearInRange fiscal_year = true
  revenue : ∀ account, IsRevenue spec account →
    transferred config trial_balance spec account = 0 ∧
      (IsExpense spec account ∨ IsDividend spec account → balance trial_balance account = 0)
  once : ∀ account, ¬ IsRevenue spec account → IsExpense spec account ∨ IsDividend spec account →
    ¬ (IsExpense spec account ∧ IsDividend spec account) →
    transferred config trial_balance spec account = 0
  twice : ∀ account, ¬ IsRevenue spec account → IsExpense spec account → IsDividend spec account →
    transferred config trial_balance spec account = balance trial_balance account
  income_summary : transferred config trial_balance spec spec.income_summary_account = 0 ∧
    (IsRevenue spec spec.income_summary_account ∨ IsExpense spec spec.income_summary_account ∨
      IsDividend spec spec.income_summary_account →
      balance trial_balance spec.income_summary_account = 0)
  retained_earnings : closed trial_balance spec spec.retained_earnings_account +
    transferred config trial_balance spec spec.retained_earnings_account =
      dividends trial_balance spec - netIncome trial_balance spec

variable {order config company_code fiscal_year trial_balance spec}

section Accounts

variable {R E D : Prop} [Decidable R] [Decidable E] [Decidable D] {b t : ℚ}

/-- An account of balance `b` that receives `t` is cleared in all its roles exactly if it receives
nothing, or its balance if that is closed twice. -/
theorem cleared_iff :
    ((R → b - ((if R then b else 0) - (if E then b else 0) - (if D then b else 0) + t) = 0) ∧
        (E ∨ D →
          b + ((if R then b else 0) - (if E then b else 0) - (if D then b else 0) + t) = 0)) ↔
      (R → t = 0 ∧ (E ∨ D → b = 0)) ∧ (¬ R → E ∨ D → ¬ (E ∧ D) → t = 0) ∧
        (¬ R → E → D → t = b) := by
  -- The eight combinations of roles.
  by_cases hR : R <;> by_cases hE : E <;> by_cases hD : D <;>
    simp only [hR, hE, hD, if_true, if_false, true_or, or_true, or_self, forall_const,
      not_true_eq_false, not_false_eq_true, false_implies, and_true, true_and, and_self,
      and_false, implies_true] <;>
    constructor <;> intro h <;> grind

/-- A cleared account is left as it was exactly if it receives nothing and had no balance to be
cleared. -/
theorem unchanged_iff (hrevenue : R → t = 0 ∧ (E ∨ D → b = 0))
    (honce : ¬ R → E ∨ D → ¬ (E ∧ D) → t = 0) (htwice : ¬ R → E → D → t = b) :
    (if R then b else 0) - (if E then b else 0) - (if D then b else 0) + t = 0 ↔
      t = 0 ∧ (R ∨ E ∨ D → b = 0) := by
  by_cases hR : R
  · obtain ⟨ht, hzero⟩ := hrevenue hR
    rw [if_pos hR, ht]
    by_cases hED : E ∨ D
    · rw [hzero hED]
      simp
    · obtain ⟨hE, hD⟩ := not_or.mp hED
      simp [hR, hE, hD]
  · rw [if_neg hR]
    by_cases hE : E
    · by_cases hD : D
      · rw [if_pos hE, if_pos hD, htwice hR hE hD]
        constructor
        · intro h
          have hzero : b = 0 := by linarith
          exact ⟨hzero, fun _ => hzero⟩
        · rintro ⟨hzero, -⟩
          rw [hzero]
          norm_num
      · rw [honce hR (.inl hE) fun h => hD h.2]
        simp [hR, hE, hD]
    · by_cases hD : D
      · rw [honce hR (.inr hD) fun h => hE h.1]
        simp [hR, hE, hD]
      · simp [hR, hE, hD]

end Accounts

theorem closesBooks_of_rolesApart {order : HashOrder} {config : YearEndCloseConfig}
    {company_code : String} {fiscal_year : ℤ} {trial_balance : TrialBalance}
    {spec : YearEndClosingSpec} (h : RolesApart config fiscal_year trial_balance spec) :
    ClosesBooks order config company_code fiscal_year trial_balance spec := by
  obtain ⟨result, hgenerate, hbalanced, hposted, himpact⟩ :=
    exists_result config trial_balance spec order company_code fiscal_year h.year
  have hcleared := fun account => cleared_iff.mpr
    ⟨h.revenue account, h.once account, h.twice account⟩
  refine ⟨result, hgenerate, hbalanced, ?_, ?_, ?_, ?_, ?_⟩
  · intro account hrevenue
    rw [hposted, closed]
    exact (hcleared account).1 hrevenue
  · intro account hexpense
    rw [hposted, closed]
    exact (hcleared account).2 (.inl hexpense)
  · intro account hdividend
    rw [hposted, closed]
    exact (hcleared account).2 (.inr hdividend)
  · rw [hposted]
    exact (unchanged_iff (h.revenue _) (h.once _) (h.twice _)).mpr h.income_summary
  · rw [hposted, h.retained_earnings, himpact]
    ring

theorem closesBooks_iff (order : HashOrder) (config : YearEndCloseConfig) (company_code : String)
    (fiscal_year : ℤ) (trial_balance : TrialBalance) (spec : YearEndClosingSpec) :
    ClosesBooks order config company_code fiscal_year trial_balance spec ↔
      RolesApart config fiscal_year trial_balance spec := by
  constructor
  · rintro ⟨result, hgenerate, hclosed⟩
    have hyear : yearInRange fiscal_year = true := by
      by_contra hyear
      rw [generate_year_end_close, if_neg hyear] at hgenerate
      cases hgenerate
    obtain ⟨result', hgenerate', -, hposted, himpact⟩ :=
      exists_result config trial_balance spec order company_code fiscal_year hyear
    cases hgenerate.symm.trans hgenerate'
    have hcleared := fun account => cleared_iff.mp
      ⟨fun h => by
        have hrevenue := hclosed.revenue account h
        rwa [hposted, closed] at hrevenue,
      fun h => by
        have hother := h.elim (hclosed.expense account) (hclosed.dividend account)
        rwa [hposted, closed] at hother⟩
    have hsummary := hclosed.income_summary
    have hearnings := hclosed.retained_earnings
    rw [hposted] at hsummary hearnings
    constructor
    · exact hyear
    · exact fun account => (hcleared account).1
    · exact fun account => (hcleared account).2.1
    · exact fun account => (hcleared account).2.2
    · obtain ⟨hrevenue, honce, htwice⟩ := hcleared spec.income_summary_account
      exact (unchanged_iff hrevenue honce htwice).mp hsummary
    · linarith
  · exact closesBooks_of_rolesApart

/-- The default configuration and a specification that names other accounts. -/
theorem not_closesBooks_default :
    ¬ ClosesBooks .insertion .default "1000" 2024
        (.ofList [("4000", 500000), ("4100", 50000), ("5000", 300000), ("6000", 100000)])
        ⟨["4"], ["5", "6"], "3500", "3300", none⟩ := by
  rintro ⟨result, hgenerate, hclosed⟩
  obtain ⟨result', hgenerate', -, hposted, -⟩ := exists_result .default
    (.ofList [("4000", 500000), ("4100", 50000), ("5000", 300000), ("6000", 100000)])
    ⟨["4"], ["5", "6"], "3500", "3300", none⟩ .insertion "1000" 2024 (by decide)
  cases hgenerate.symm.trans hgenerate'
  have hleft : posted result "3500" = -150000 := by
    rw [hposted]
    decide +kernel
  rw [hclosed.income_summary] at hleft
  norm_num at hleft

end Books

end Datasynth.Generators.ClosedBooks
