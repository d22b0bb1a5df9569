import Datasynth.Core.TrialBalances
import Datasynth.Lib.ListRearrangement
import Mathlib.Algebra.BigOperators.Group.List.Basic
import Mathlib.Data.List.Induction
import Mathlib.Tactic.Linarith
import Mathlib.Tactic.Ring

/-!
The projection of a closing trial balance onto the next period's opening balances.
The profit-and-loss rows are left out, and their net income goes to the last row of
retained earnings or, without one, to a new row.
-/

namespace Datasynth.Generators.ClosingToOpening

open Datasynth.Core.TrialBalances
open Datasynth.Lib.ListRearrangement

def carry (line : TrialBalanceLine) : EntityOpeningBalance :=
  ⟨line.account_code, line.account_type, line.debit_balance, line.credit_balance⟩

structure Projection where
  net_income : ℚ
  openings : List EntityOpeningBalance
  re_idx : Option ℕ

def Projection.start : Projection := ⟨0, [], none⟩

def projectLine (re_account : String) (st : Projection) (line : TrialBalanceLine) : Projection :=
  match line.account_type with
  | .asset | .contraAsset | .liability | .contraLiability | .equity | .contraEquity =>
      { st with
        re_idx := if line.account_code = re_account then some st.openings.length else st.re_idx
        openings := st.openings ++ [carry line] }
  | .revenue | .expense =>
      { st with net_income := st.net_income + (line.credit_balance - line.debit_balance) }

def absorbInto (net_income : ℚ) (row : EntityOpeningBalance) : EntityOpeningBalance :=
  let net := row.credit - row.debit + net_income
  if 0 ≤ net then { row with credit := net, debit := 0 } else { row with debit := -net, credit := 0 }

def newRetainedEarnings (re_account : String) (net_income : ℚ) : EntityOpeningBalance :=
  if 0 ≤ net_income then ⟨re_account, .equity, 0, net_income⟩
  else ⟨re_account, .equity, -net_income, 0⟩

def projectLines (re_account : String) (lines : List TrialBalanceLine) : Projection :=
  lines.foldl (projectLine re_account) Projection.start

def project_closing_to_opening (closing_tb : TrialBalance) (framework : String) :
    List EntityOpeningBalance :=
  let re_account := (FrameworkAccounts.for_framework framework).retained_earnings
  let st := projectLines re_account closing_tb.lines
  if st.net_income = 0 then st.openings
  else
    match st.re_idx with
    | some i => st.openings.modify i (absorbInto st.net_income)
    | none => st.openings ++ [newRetainedEarnings re_account st.net_income]

def carriedRows (lines : List TrialBalanceLine) : List EntityOpeningBalance :=
  (lines.filter (·.account_type.isBalanceSheet)).map carry

def netIncome (lines : List TrialBalanceLine) : ℚ :=
  ((lines.filter (!·.account_type.isBalanceSheet)).map fun line =>
    line.credit_balance - line.debit_balance).sum

def creditBalance (rows : List EntityOpeningBalance) : ℚ :=
  (rows.map fun row => row.credit - row.debit).sum

@[simp] theorem creditBalance_nil : creditBalance [] = 0 := rfl

@[simp] theorem creditBalance_append (rows rows' : List EntityOpeningBalance) :
    creditBalance (rows ++ rows') = creditBalance rows + creditBalance rows' := by
  simp [creditBalance]

section Absorption

variable (net_income : ℚ) (row : EntityOpeningBalance) (re_account : String)

@[simp] theorem account_code_absorbInto :
    (absorbInto net_income row).account_code = row.account_code := by
  rw [absorbInto]
  split <;> rfl

@[simp] theorem account_type_absorbInto :
    (absorbInto net_income row).account_type = row.account_type := by
  rw [absorbInto]
  split <;> rfl

@[simp] theorem creditBalance_absorbInto :
    creditBalance [absorbInto net_income row] = creditBalance [row] + net_income := by
  simp only [creditBalance, absorbInto, List.map_cons, List.map_nil, List.sum_singleton]
  split <;> simp

@[simp] theorem account_code_newRetainedEarnings :
    (newRetainedEarnings re_account net_income).account_code = re_account := by
  rw [newRetainedEarnings]
  split <;> rfl

@[simp] theorem account_type_newRetainedEarnings :
    (newRetainedEarnings re_account net_income).account_type = .equity := by
  rw [newRetainedEarnings]
  split <;> rfl

@[simp] theorem creditBalance_newRetainedEarnings :
    creditBalance [newRetainedEarnings re_account net_income] = net_income := by
  simp only [creditBalance, newRetainedEarnings, List.map_cons, List.map_nil, List.sum_singleton]
  split <;> simp

end Absorption

section Walk

variable (re_account : String) (lines : List TrialBalanceLine)

theorem projectLines_concat (line : TrialBalanceLine) :
    projectLines re_account (lines ++ [line]) =
      projectLine re_account (projectLines re_account lines) line := by
  simp [projectLines]

theorem projectLine_of_isBalanceSheet (st : Projection) {line : TrialBalanceLine}
    (hside : line.account_type.isBalanceSheet = true) :
    projectLine re_account st line =
      { st with
        re_idx := if line.account_code = re_account then some st.openings.length else st.re_idx
        openings := st.openings ++ [carry line] } := by
  rw [projectLine]
  revert hside
  cases line.account_type <;> simp [AccountType.isBalanceSheet]

theorem projectLine_of_not_isBalanceSheet (st : Projection) {line : TrialBalanceLine}
    (hside : line.account_type.isBalanceSheet = false) :
    projectLine re_account st line =
      { st with net_income := st.net_income + (line.credit_balance - line.debit_balance) } := by
  rw [projectLine]
  revert hside
  cases line.account_type <;> simp [AccountType.isBalanceSheet]

/-- The walk carries the rows of the balance sheet and sums up the others. -/
theorem projectLines_eq :
    (projectLines re_account lines).openings = carriedRows lines ∧
      (projectLines re_account lines).net_income = netIncome lines := by
  induction lines using List.reverseRecOn with
  | nil => exact ⟨rfl, rfl⟩
  | append_singleton lines line ih =>
      rw [projectLines_concat]
      cases hside : line.account_type.isBalanceSheet with
      | false =>
          rw [projectLine_of_not_isBalanceSheet re_account _ hside]
          simp [carriedRows, netIncome, ih, hside]
      | true =>
          rw [projectLine_of_isBalanceSheet re_account _ hside]
          simp [carriedRows, netIncome, ih, hside]

/-- The index that the walk remembers is that of a row of retained earnings. -/
theorem projectLines_re_idx {i : ℕ} (h : (projectLines re_account lines).re_idx = some i) :
    ∃ before row after, carriedRows lines = before ++ row :: after ∧ before.length = i ∧
      row.account_code = re_account := by
  induction lines using List.reverseRecOn with
  | nil => cases h
  | append_singleton lines line ih =>
      have hcarried := (projectLines_eq re_account lines).1
      rw [projectLines_concat] at h
      cases hside : line.account_type.isBalanceSheet with
      | false =>
          have hrows : carriedRows (lines ++ [line]) = carriedRows lines := by
            simp [carriedRows, hside]
          rw [projectLine_of_not_isBalanceSheet re_account _ hside] at h
          rw [hrows]
          exact ih h
      | true =>
          have hrows : carriedRows (lines ++ [line]) = carriedRows lines ++ [carry line] := by
            simp [carriedRows, hside]
          rw [projectLine_of_isBalanceSheet re_account _ hside] at h
          have hidx : (if line.account_code = re_account then
              some (projectLines re_account lines).openings.length
            else (projectLines re_account lines).re_idx) = some i := h
          rw [hrows]
          split at hidx
          · rename_i hcode
            refine ⟨carriedRows lines, carry line, [], rfl, ?_, hcode⟩
            rw [← hcarried]
            exact Option.some.inj hidx
          · obtain ⟨before, row, after, hsplit, hlength, hcode⟩ := ih hidx
            exact ⟨before, row, after ++ [carry line], by simp [hsplit], hlength, hcode⟩

theorem isBalanceSheet_of_mem_carriedRows {row : EntityOpeningBalance}
    (hrow : row ∈ carriedRows lines) : row.account_type.isBalanceSheet = true := by
  obtain ⟨line, hline, rfl⟩ := List.mem_map.mp hrow
  exact (List.mem_filter.mp hline).2

/-- The projection replaces rows of retained earnings, at most one by one, by rows of
retained earnings whose balance includes the net income. -/
theorem project_splits (closing_tb : TrialBalance) (framework : String) {re_account : String}
    (hre : re_account = (FrameworkAccounts.for_framework framework).retained_earnings) :
    ∃ before replaced replacing after,
      carriedRows closing_tb.lines = before ++ replaced ++ after ∧
        project_closing_to_opening closing_tb framework = before ++ replacing ++ after ∧
        (∀ row ∈ replaced, row.account_code = re_account) ∧
        (∀ row ∈ replacing, row.account_code = re_account ∧
          row.account_type.isBalanceSheet = true) ∧
        creditBalance replacing = creditBalance replaced + netIncome closing_tb.lines := by
  obtain ⟨hopenings, hincome⟩ := projectLines_eq re_account closing_tb.lines
  simp only [project_closing_to_opening, ← hre, hopenings, hincome]
  split
  · rename_i hzero
    exact ⟨carriedRows closing_tb.lines, [], [], [], by simp, by simp, by simp, by simp,
      by simp [hzero]⟩
  · split
    · rename_i i hidx
      obtain ⟨before, row, after, hsplit, rfl, hcode⟩ :=
        projectLines_re_idx re_account closing_tb.lines hidx
      have hside : row.account_type.isBalanceSheet = true :=
        isBalanceSheet_of_mem_carriedRows closing_tb.lines (by simp [hsplit])
      refine ⟨before, [row], [absorbInto (netIncome closing_tb.lines) row], after, by simp [hsplit],
        ?_, by simp [hcode], by simp [hcode, hside], by simp⟩
      rw [hsplit, modify_length_append, List.append_assoc, List.singleton_append]
    · refine ⟨carriedRows closing_tb.lines, [],
        [newRetainedEarnings re_account (netIncome closing_tb.lines)], [], by simp, by simp,
        by simp, ?_, by simp⟩
      simp [AccountType.isBalanceSheet]

def closingImbalance (lines : List TrialBalanceLine) : ℚ :=
  (lines.map (·.debit_balance)).sum - (lines.map (·.credit_balance)).sum

def openingImbalance (rows : List EntityOpeningBalance) : ℚ :=
  (rows.map (·.debit)).sum - (rows.map (·.credit)).sum

theorem openingImbalance_eq (rows : List EntityOpeningBalance) :
    openingImbalance rows = -creditBalance rows := by
  rw [openingImbalance, creditBalance]
  induction rows with
  | nil => simp
  | cons row rows ih =>
      simp only [List.map_cons, List.sum_cons]
      linarith

theorem closingImbalance_eq :
    closingImbalance lines = -(creditBalance (carriedRows lines) + netIncome lines) := by
  induction lines with
  | nil => simp [closingImbalance, carriedRows, netIncome]
  | cons line lines ih =>
      simp only [closingImbalance, creditBalance, carriedRows, netIncome] at ih ⊢
      cases hside : line.account_type.isBalanceSheet <;>
        simp only [hside, List.filter_cons, List.map_cons, List.sum_cons, carry, Bool.not_true,
          Bool.not_false, if_true, if_false, Bool.false_eq_true] <;> linarith

end Walk

def retainedEarnings (re_account : String) (rows : List EntityOpeningBalance) :
    List EntityOpeningBalance :=
  rows.filter (·.account_code = re_account)

/-- Openings carry the balance sheet forward and close the income into retained
earnings. -/
structure CarriesForward (re_account : String) (lines : List TrialBalanceLine)
    (openings : List EntityOpeningBalance) : Prop where
  no_profit_and_loss : ∀ row ∈ openings, row.account_type.isBalanceSheet = true
  imbalance : openingImbalance openings = closingImbalance lines
  others_unchanged : openings.filter (·.account_code ≠ re_account) =
    (carriedRows lines).filter (·.account_code ≠ re_account)
  retained_earnings : creditBalance (retainedEarnings re_account openings) =
    creditBalance (retainedEarnings re_account (carriedRows lines)) + netIncome lines

theorem project_carriesForward (closing_tb : TrialBalance) (framework : String) :
    CarriesForward (FrameworkAccounts.for_framework framework).retained_earnings closing_tb.lines
      (project_closing_to_opening closing_tb framework) := by
  obtain ⟨before, replaced, replacing, after, hcarried, hproject, hreplaced, hreplacing,
      hbalance⟩ := project_splits closing_tb framework rfl
  generalize (FrameworkAccounts.for_framework framework).retained_earnings = re_account at *
  have hkept : ∀ row ∈ before ++ after, row.account_type.isBalanceSheet = true := by
    intro row hrow
    refine isBalanceSheet_of_mem_carriedRows closing_tb.lines ?_
    rw [hcarried]
    simp only [List.mem_append] at hrow ⊢
    exact hrow.elim (fun h => .inl (.inl h)) .inr
  have hall : ∀ rows : List EntityOpeningBalance, (∀ row ∈ rows, row.account_code = re_account) →
      rows.filter (·.account_code = re_account) = rows ∧
        rows.filter (·.account_code ≠ re_account) = [] := by
    intro rows hrows
    exact ⟨List.filter_eq_self.mpr (by simpa using hrows),
      List.filter_eq_nil_iff.mpr (by simpa using hrows)⟩
  obtain ⟨hreplaced, hreplaced'⟩ := hall replaced hreplaced
  obtain ⟨hreplacing', hreplacing''⟩ := hall replacing fun row hrow => (hreplacing row hrow).1
  rw [hproject]
  constructor
  · intro row hrow
    simp only [List.mem_append] at hrow
    rcases hrow with (hrow | hrow) | hrow
    · exact hkept row (List.mem_append_left _ hrow)
    · exact (hreplacing row hrow).2
    · exact hkept row (List.mem_append_right _ hrow)
  · rw [openingImbalance_eq, closingImbalance_eq, hcarried]
    simp only [creditBalance_append, hbalance]
    ring
  · rw [hcarried]
    simp only [List.filter_append, hreplaced', hreplacing'']
  · rw [hcarried]
    simp only [retainedEarnings, List.filter_append, hreplaced, hreplacing', creditBalance_append,
      hbalance]
    ring

end Datasynth.Generators.ClosingToOpening
