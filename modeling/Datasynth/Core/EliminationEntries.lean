import Datasynth.Core.JournalEntries

/-!
Consolidation elimination entries, their factories, and the consolidation journal
that collects them.
-/

namespace Datasynth.Core.EliminationEntries

open Datasynth.Lib.CivilCalendar

inductive EliminationType where
  | icBalances
  | icRevenueExpense
  | icProfitInInventory
  | icProfitInFixedAssets
  | investmentEquity
  | icDividends
  | icLoans
  | icInterest
  | minorityInterest
  | goodwill
  | currencyTranslation
deriving DecidableEq, Repr

def EliminationType.description : EliminationType → String
  | icBalances => "Eliminate intercompany receivables and payables"
  | icRevenueExpense => "Eliminate intercompany revenue and expense"
  | icProfitInInventory => "Eliminate unrealized profit in inventory"
  | icProfitInFixedAssets => "Eliminate unrealized profit in fixed assets"
  | investmentEquity => "Eliminate investment against subsidiary equity"
  | icDividends => "Eliminate intercompany dividends"
  | icLoans => "Eliminate intercompany loan balances"
  | icInterest => "Eliminate intercompany interest income/expense"
  | minorityInterest => "Recognize non-controlling interest"
  | goodwill => "Recognize goodwill from acquisition"
  | currencyTranslation => "Currency translation adjustment"

def EliminationType.debugName : EliminationType → String
  | icBalances => "ICBalances"
  | icRevenueExpense => "ICRevenueExpense"
  | icProfitInInventory => "ICProfitInInventory"
  | icProfitInFixedAssets => "ICProfitInFixedAssets"
  | investmentEquity => "InvestmentEquity"
  | icDividends => "ICDividends"
  | icLoans => "ICLoans"
  | icInterest => "ICInterest"
  | minorityInterest => "MinorityInterest"
  | goodwill => "Goodwill"
  | currencyTranslation => "CurrencyTranslation"

def EliminationType.is_recurring : EliminationType → Bool
  | icBalances | icRevenueExpense | icLoans | icInterest | minorityInterest => true
  | _ => false

structure EliminationLine where
  line_number : ℕ
  company : String
  account : String
  is_debit : Bool
  amount : ℚ
  currency : String
  description : String
deriving DecidableEq

structure EliminationEntry where
  entry_id : String
  elimination_type : EliminationType
  consolidation_entity : String
  fiscal_period : String
  entry_date : Date
  related_companies : List String
  lines : List EliminationLine
  total_debit : ℚ
  total_credit : ℚ
  currency : String
  is_permanent : Bool
  ic_references : List String
  description : String
  created_by : String
deriving DecidableEq

def EliminationEntry.new (entry_id : String) (elimination_type : EliminationType)
    (consolidation_entity fiscal_period : String) (entry_date : Date) (currency : String) :
    EliminationEntry where
  entry_id := entry_id
  elimination_type := elimination_type
  consolidation_entity := consolidation_entity
  fiscal_period := fiscal_period
  entry_date := entry_date
  related_companies := []
  lines := []
  total_debit := 0
  total_credit := 0
  currency := currency
  is_permanent := !elimination_type.is_recurring
  ic_references := []
  description := elimination_type.description
  created_by := "SYSTEM"

def EliminationEntry.add_line (entry : EliminationEntry) (line : EliminationLine) :
    EliminationEntry :=
  { entry with
    total_debit := if line.is_debit then entry.total_debit + line.amount else entry.total_debit
    total_credit := if line.is_debit then entry.total_credit else entry.total_credit + line.amount
    lines := entry.lines ++ [line] }

def EliminationEntry.create_ic_balance_elimination
    (entry_id consolidation_entity fiscal_period : String) (entry_date : Date)
    (company1 company2 receivable_account payable_account : String) (amount : ℚ)
    (currency : String) : EliminationEntry :=
  let entry := EliminationEntry.new entry_id .icBalances consolidation_entity fiscal_period
    entry_date currency
  let entry := { entry with
    related_companies := [company1, company2]
    description := s!"Eliminate IC balance between {company1} and {company2}" }
  let entry := entry.add_line
    { line_number := 1, company := company2, account := payable_account, is_debit := true
      amount, currency, description := s!"Eliminate IC payable to {company1}" }
  entry.add_line
    { line_number := 2, company := company1, account := receivable_account, is_debit := false
      amount, currency, description := s!"Eliminate IC receivable from {company2}" }

def EliminationEntry.create_ic_revenue_expense_elimination
    (entry_id consolidation_entity fiscal_period : String) (entry_date : Date)
    (seller buyer revenue_account expense_account : String) (amount : ℚ)
    (currency : String) : EliminationEntry :=
  let entry := EliminationEntry.new entry_id .icRevenueExpense consolidation_entity fiscal_period
    entry_date currency
  let entry := { entry with
    related_companies := [seller, buyer]
    description := s!"Eliminate IC revenue/expense between {seller} and {buyer}" }
  let entry := entry.add_line
    { line_number := 1, company := seller, account := revenue_account, is_debit := true
      amount, currency, description := s!"Eliminate IC revenue from {buyer}" }
  entry.add_line
    { line_number := 2, company := buyer, account := expense_account, is_debit := false
      amount, currency, description := s!"Eliminate IC expense to {seller}" }

def EliminationEntry.create_unrealized_profit_elimination
    (entry_id consolidation_entity fiscal_period : String) (entry_date : Date)
    (seller buyer : String) (unrealized_profit : ℚ) (currency : String) : EliminationEntry :=
  let entry := EliminationEntry.new entry_id .icProfitInInventory consolidation_entity
    fiscal_period entry_date currency
  let entry := { entry with
    related_companies := [seller, buyer]
    description := s!"Eliminate unrealized profit in inventory from {seller} to {buyer}" }
  let entry := entry.add_line
    { line_number := 1, company := seller, account := "5000", is_debit := true
      amount := unrealized_profit, currency, description := "Eliminate unrealized profit" }
  entry.add_line
    { line_number := 2, company := buyer, account := "1400", is_debit := false
      amount := unrealized_profit, currency, description := "Reduce inventory to cost" }

/-- The lines of an investment elimination without their numbers: the subsidiary's
equity and the goodwill in debit, the investment and the minority interest in credit. -/
def investmentEquityLines (consolidation_entity parent subsidiary : String)
    (investment_amount : ℚ) (equity_components : List (String × ℚ))
    (goodwill minority_interest : Option ℚ) (currency : String) : List EliminationLine :=
  (equity_components.map fun (account, amount) =>
    { line_number := 0, company := subsidiary, account, is_debit := true, amount, currency
      description := "Eliminate subsidiary equity" }) ++
  (goodwill.toList.map fun goodwill_amount =>
    { line_number := 0, company := consolidation_entity, account := "1800", is_debit := true
      amount := goodwill_amount, currency, description := "Recognize goodwill" }) ++
  [{ line_number := 0, company := parent, account := "1510", is_debit := false
     amount := investment_amount, currency
     description := "Eliminate investment in subsidiary" }] ++
  (minority_interest.toList.map fun mi_amount =>
    { line_number := 0, company := consolidation_entity, account := "3500", is_debit := false
      amount := mi_amount, currency, description := "Recognize non-controlling interest" })

def EliminationEntry.addNumbered (entry : EliminationEntry) : ℕ → List EliminationLine → EliminationEntry
  | _, [] => entry
  | n, line :: lines => (entry.add_line { line with line_number := n }).addNumbered (n + 1) lines

def EliminationEntry.create_investment_equity_elimination
    (entry_id consolidation_entity fiscal_period : String) (entry_date : Date)
    (parent subsidiary : String) (investment_amount : ℚ) (equity_components : List (String × ℚ))
    (goodwill minority_interest : Option ℚ) (currency : String) : EliminationEntry :=
  let entry := EliminationEntry.new entry_id .investmentEquity consolidation_entity fiscal_period
    entry_date currency
  let entry := { entry with
    related_companies := [parent, subsidiary]
    is_permanent := true
    description := s!"Eliminate investment in {subsidiary} against equity" }
  entry.addNumbered 1 (investmentEquityLines consolidation_entity parent subsidiary
    investment_amount equity_components goodwill minority_interest currency)

def EliminationEntry.is_balanced (entry : EliminationEntry) : Bool :=
  entry.total_debit = entry.total_credit

def sideTotal (is_debit : Bool) (lines : List EliminationLine) : ℚ :=
  (lines.map fun line => if line.is_debit = is_debit then line.amount else 0).sum

@[simp] theorem sideTotal_nil (is_debit : Bool) : sideTotal is_debit [] = 0 := rfl

@[simp] theorem sideTotal_cons (is_debit : Bool) (line : EliminationLine)
    (lines : List EliminationLine) :
    sideTotal is_debit (line :: lines) =
      (if line.is_debit = is_debit then line.amount else 0) + sideTotal is_debit lines := by
  rw [sideTotal, List.map_cons, List.sum_cons, sideTotal]

@[simp] theorem sideTotal_append (is_debit : Bool) (lines lines' : List EliminationLine) :
    sideTotal is_debit (lines ++ lines') = sideTotal is_debit lines + sideTotal is_debit lines' := by
  rw [sideTotal, List.map_append, List.sum_append, sideTotal, sideTotal]

/-- Lines that are all on one side add up there and nowhere else. -/
theorem sideTotal_map_of_side {α : Type} (side : Bool) (row : α → EliminationLine)
    (hside : ∀ a, (row a).is_debit = side) (rows : List α) (is_debit : Bool) :
    sideTotal is_debit (rows.map row) =
      if side = is_debit then (rows.map fun a => (row a).amount).sum else 0 := by
  induction rows with
  | nil => simp
  | cons a rows ih =>
      rw [List.map_cons, sideTotal_cons, ih, hside]
      split <;> simp

/-- The totals of an entry are those of its lines. -/
structure EliminationEntry.Tallied (entry : EliminationEntry) : Prop where
  debit : entry.total_debit = sideTotal true entry.lines
  credit : entry.total_credit = sideTotal false entry.lines

theorem EliminationEntry.Tallied.add_line {entry : EliminationEntry} (h : entry.Tallied)
    (line : EliminationLine) : (entry.add_line line).Tallied := by
  constructor
  · show (if line.is_debit then _ else _) = sideTotal true (entry.lines ++ [line])
    rw [sideTotal_append, h.debit]
    cases hside : line.is_debit <;> simp [hside]
  · show (if line.is_debit then _ else _) = sideTotal false (entry.lines ++ [line])
    rw [sideTotal_append, h.credit]
    cases hside : line.is_debit <;> simp [hside]

theorem EliminationEntry.Tallied.addNumbered {entry : EliminationEntry} (h : entry.Tallied)
    (n : ℕ) (lines : List EliminationLine) : (entry.addNumbered n lines).Tallied := by
  induction lines generalizing entry n with
  | nil => exact h
  | cons line lines ih => exact ih (h.add_line _) (n + 1)

theorem EliminationEntry.addNumbered_total_debit (entry : EliminationEntry) (n : ℕ)
    (lines : List EliminationLine) :
    (entry.addNumbered n lines).total_debit = entry.total_debit + sideTotal true lines := by
  induction lines generalizing entry n with
  | nil => simp [EliminationEntry.addNumbered]
  | cons line lines ih =>
      rw [EliminationEntry.addNumbered, ih, sideTotal_cons, ← add_assoc]
      cases line.is_debit <;> simp [EliminationEntry.add_line]

theorem EliminationEntry.addNumbered_total_credit (entry : EliminationEntry) (n : ℕ)
    (lines : List EliminationLine) :
    (entry.addNumbered n lines).total_credit = entry.total_credit + sideTotal false lines := by
  induction lines generalizing entry n with
  | nil => simp [EliminationEntry.addNumbered]
  | cons line lines ih =>
      rw [EliminationEntry.addNumbered, ih, sideTotal_cons, ← add_assoc]
      cases line.is_debit <;> simp [EliminationEntry.add_line]

section InvestmentEquity

variable (consolidation_entity parent subsidiary : String) (investment_amount : ℚ)
  (equity_components : List (String × ℚ)) (goodwill minority_interest : Option ℚ)
  (currency : String)

theorem debit_investmentEquityLines :
    sideTotal true (investmentEquityLines consolidation_entity parent subsidiary investment_amount
      equity_components goodwill minority_interest currency) =
        (equity_components.map Prod.snd).sum + goodwill.getD 0 := by
  have hequity := sideTotal_map_of_side true
    (fun e : String × ℚ =>
      ⟨0, subsidiary, e.1, true, e.2, currency, "Eliminate subsidiary equity"⟩)
    (fun _ => rfl) equity_components true
  simp only [investmentEquityLines, sideTotal_append, hequity]
  cases goodwill <;> cases minority_interest <;> simp

theorem credit_investmentEquityLines :
    sideTotal false (investmentEquityLines consolidation_entity parent subsidiary investment_amount
      equity_components goodwill minority_interest currency) =
        investment_amount + minority_interest.getD 0 := by
  have hequity := sideTotal_map_of_side true
    (fun e : String × ℚ =>
      ⟨0, subsidiary, e.1, true, e.2, currency, "Eliminate subsidiary equity"⟩)
    (fun _ => rfl) equity_components false
  simp only [investmentEquityLines, sideTotal_append, hequity]
  cases goodwill <;> cases minority_interest <;> simp

/-- An investment elimination balances when the equity and the goodwill pay for the
investment and the minority interest. -/
theorem EliminationEntry.is_balanced_create_investment_equity (entry_id fiscal_period : String)
    (entry_date : Date) :
    (EliminationEntry.create_investment_equity_elimination entry_id consolidation_entity
        fiscal_period entry_date parent subsidiary investment_amount equity_components goodwill
        minority_interest currency).is_balanced = true ↔
      (equity_components.map Prod.snd).sum + goodwill.getD 0 =
        investment_amount + minority_interest.getD 0 := by
  rw [EliminationEntry.is_balanced, decide_eq_true_iff,
    EliminationEntry.create_investment_equity_elimination,
    EliminationEntry.addNumbered_total_debit, EliminationEntry.addNumbered_total_credit,
    debit_investmentEquityLines, credit_investmentEquityLines]
  simp [EliminationEntry.new]

end InvestmentEquity

structure ICAggregatedBalance where
  creditor_company : String
  debtor_company : String
  receivable_account : String
  payable_account : String
  receivable_balance : ℚ
  payable_balance : ℚ
  currency : String
deriving DecidableEq

def ICAggregatedBalance.elimination_amount (balance : ICAggregatedBalance) : ℚ :=
  min balance.receivable_balance balance.payable_balance

inductive ConsolidationStatus where
  | draft
  | pendingApproval
  | approved
  | posted
deriving DecidableEq, Repr

structure EliminationSummary where
  elimination_type : EliminationType
  entry_count : ℕ
  total_amount : ℚ
deriving DecidableEq

structure ConsolidationJournal where
  consolidation_entity : String
  fiscal_period : String
  status : ConsolidationStatus
  entries : List EliminationEntry
  summary : List EliminationSummary
  total_debits : ℚ
  total_credits : ℚ
  is_balanced : Bool
  approved_by : Option String
deriving DecidableEq

def ConsolidationJournal.new (consolidation_entity fiscal_period : String) :
    ConsolidationJournal where
  consolidation_entity := consolidation_entity
  fiscal_period := fiscal_period
  status := .draft
  entries := []
  summary := []
  total_debits := 0
  total_credits := 0
  is_balanced := true
  approved_by := none

def countEntry (entry : EliminationEntry) : List EliminationSummary → List EliminationSummary
  | [] => [⟨entry.elimination_type, 1, entry.total_debit⟩]
  | summary :: rest =>
      if summary.elimination_type = entry.elimination_type then
        { summary with
          entry_count := summary.entry_count + 1
          total_amount := summary.total_amount + entry.total_debit } :: rest
      else summary :: countEntry entry rest

def ConsolidationJournal.add_entry (journal : ConsolidationJournal) (entry : EliminationEntry) :
    ConsolidationJournal :=
  let total_debits := journal.total_debits + entry.total_debit
  let total_credits := journal.total_credits + entry.total_credit
  { journal with
    total_debits
    total_credits
    is_balanced := total_debits = total_credits
    summary := countEntry entry journal.summary
    entries := journal.entries ++ [entry] }

def ConsolidationJournal.submit (journal : ConsolidationJournal) : ConsolidationJournal :=
  if journal.is_balanced then { journal with status := .pendingApproval } else journal

/-- Approval does not ask whether the journal was submitted. -/
def ConsolidationJournal.approve (journal : ConsolidationJournal) (approved_by : String) :
    ConsolidationJournal :=
  { journal with status := .approved, approved_by := some approved_by }

def ConsolidationJournal.post (journal : ConsolidationJournal) : ConsolidationJournal :=
  if journal.status = .approved then { journal with status := .posted } else journal

/-- The signed amounts an elimination posts, debits minus credits. -/
def EliminationEntry.postings (entry : EliminationEntry) : List (String × ℚ) :=
  entry.lines.map fun line => (line.account, if line.is_debit then line.amount else -line.amount)

end Datasynth.Core.EliminationEntries
