import Mathlib.Algebra.Order.Group.Unbundled.Abs
import Mathlib.Data.String.Basic
import Datasynth.Core.EliminationEntries
import Datasynth.Lib.HalfEvenRounding
import Datasynth.Lib.HashIteration
import Datasynth.Lib.AmountText
import Datasynth.Lib.SortedEntries

/-!
The generator of consolidation eliminations: intercompany balances, revenue and
expense, unrealized profit, investments against equity, dividends and minority
interests, collected in one journal per period.
-/

namespace Datasynth.Generators.Consolidation

open Datasynth.Core.EliminationEntries
open Datasynth.Lib.CivilCalendar
open Datasynth.Lib.DecimalText
open Datasynth.Lib.HalfEvenRounding
open Datasynth.Lib.HashIteration
open Datasynth.Lib.SortedEntries

structure EliminationConfig where
  consolidation_entity : String
  base_currency : String
  eliminate_ic_balances : Bool
  eliminate_ic_revenue_expense : Bool
  eliminate_unrealized_profit : Bool
  eliminate_investment_equity : Bool
  average_markup_rate : ℚ
  ic_inventory_percent : ℚ
deriving DecidableEq

def EliminationConfig.default : EliminationConfig where
  consolidation_entity := "GROUP"
  base_currency := "USD"
  eliminate_ic_balances := true
  eliminate_ic_revenue_expense := true
  eliminate_unrealized_profit := true
  eliminate_investment_equity := true
  average_markup_rate := 5 / 100
  ic_inventory_percent := 20 / 100

inductive ConsolidationMethod where
  | full
  | proportional
  | equity
  | cost
deriving DecidableEq, Repr

def ConsolidationMethod.from_ownership (ownership_pct : ℚ) : ConsolidationMethod :=
  if 50 < ownership_pct then .full else if 20 ≤ ownership_pct then .equity else .cost

structure IntercompanyRelationship where
  parent_company : String
  subsidiary_company : String
  ownership_percentage : ℚ
  consolidation_method : ConsolidationMethod
deriving DecidableEq

def IntercompanyRelationship.new (parent_company subsidiary_company : String)
    (ownership_percentage : ℚ) : IntercompanyRelationship :=
  ⟨parent_company, subsidiary_company, ownership_percentage,
    ConsolidationMethod.from_ownership ownership_percentage⟩

inductive ICTransactionType where
  | goodsSale
  | serviceProvided
  | loan
  | loanInterest
  | dividend
  | managementFee
  | royalty
  | costSharing
  | capitalContribution
  | expenseRecharge
  | technicalAssistance
  | guaranteeFee
  | licenseFee
  | rdCostSharing
deriving DecidableEq, Repr

def ICTransactionType.affects_pnl : ICTransactionType → Bool
  | loan | capitalContribution | dividend => false
  | _ => true

structure ICMatchedPair where
  transaction_type : ICTransactionType
  seller_company : String
  buyer_company : String
  amount : ℚ
deriving DecidableEq

def entryPrefix : EliminationType → String
  | .icBalances => "EB"
  | .icRevenueExpense => "ER"
  | .icProfitInInventory => "EP"
  | .icProfitInFixedAssets => "EA"
  | .investmentEquity => "EI"
  | .icDividends => "ED"
  | .icLoans => "EL"
  | .icInterest => "EN"
  | .minorityInterest => "EM"
  | .goodwill => "EG"
  | .currencyTranslation => "EC"

def revenueAccount : ICTransactionType → String
  | .goodsSale => "4100"
  | .serviceProvided => "4200"
  | .managementFee => "4300"
  | .royalty => "4400"
  | .loanInterest => "4500"
  | _ => "4900"

def expenseAccount : ICTransactionType → String
  | .goodsSale => "5100"
  | .serviceProvided => "5200"
  | .managementFee => "5300"
  | .royalty => "5400"
  | .loanInterest => "5500"
  | _ => "5900"

abbrev EquityAmounts := OrderedMap String (OrderedMap String ℚ)

structure EliminationGenerator where
  config : EliminationConfig
  relationships : List IntercompanyRelationship
  entry_counter : ℕ
  journals : OrderedMap String ConsolidationJournal

namespace EliminationGenerator

def new (config : EliminationConfig) (relationships : List IntercompanyRelationship) :
    EliminationGenerator :=
  ⟨config, relationships, 0, OrderedMap.empty⟩

def generate_entry_id (g : EliminationGenerator) (elim_type : EliminationType) :
    String × EliminationGenerator :=
  let entry_counter := g.entry_counter + 1
  (entryPrefix elim_type ++ padded 6 entry_counter, { g with entry_counter })

def withJournal (g : EliminationGenerator) (fiscal_period : String)
    (f : ConsolidationJournal → ConsolidationJournal) : EliminationGenerator :=
  { g with
    journals := g.journals.upsert fiscal_period fun journal =>
      f (journal.getD (ConsolidationJournal.new g.config.consolidation_entity fiscal_period)) }

def get_or_create_journal (g : EliminationGenerator) (fiscal_period : String) :
    EliminationGenerator :=
  g.withJournal fiscal_period id

/-- Number an entry, build it and put it in the journal of its period. -/
def emit (g : EliminationGenerator) (fiscal_period : String) (elim_type : EliminationType)
    (build : String → EliminationEntry) : EliminationGenerator :=
  let (entry_id, g) := g.generate_entry_id elim_type
  g.withJournal fiscal_period fun journal => journal.add_entry (build entry_id)

/-- Emit the entries of the items that have one, in order. -/
def emitEach {α : Type} (g : EliminationGenerator) (fiscal_period : String)
    (elim_type : EliminationType) (build : α → Option (String → EliminationEntry))
    (items : List α) : EliminationGenerator :=
  items.foldl (fun g item =>
    match build item with
    | none => g
    | some entry => g.emit fiscal_period elim_type entry) g

structure SameSetup (g g' : EliminationGenerator) : Prop where
  config : g'.config = g.config
  relationships : g'.relationships = g.relationships

theorem SameSetup.trans {g g' g'' : EliminationGenerator} (h : SameSetup g g')
    (h' : SameSetup g' g'') : SameSetup g g'' :=
  ⟨h'.config.trans h.config, h'.relationships.trans h.relationships⟩

theorem sameSetup_emitEach {α : Type} (g : EliminationGenerator) (fiscal_period : String)
    (elim_type : EliminationType) (build : α → Option (String → EliminationEntry))
    (items : List α) : SameSetup g (g.emitEach fiscal_period elim_type build items) := by
  induction items generalizing g with
  | nil => exact ⟨rfl, rfl⟩
  | cons item items ih =>
      rw [emitEach, List.foldl_cons, ← emitEach]
      cases build item with
      | none => exact ih g
      | some entry =>
          have hemit : SameSetup g (g.emit fiscal_period elim_type entry) := ⟨rfl, rfl⟩
          exact hemit.trans (ih (g.emit fiscal_period elim_type entry))

section Calls

variable (order : HashOrder) (g : EliminationGenerator) (fiscal_period : String) (entry_date : Date)

def balanceEntry (balance : ICAggregatedBalance) : Option (String → EliminationEntry) :=
  if balance.elimination_amount = 0 then none
  else some fun entry_id =>
    EliminationEntry.create_ic_balance_elimination entry_id g.config.consolidation_entity
      fiscal_period entry_date balance.creditor_company balance.debtor_company
      balance.receivable_account balance.payable_account balance.elimination_amount balance.currency

def generate_ic_balance_eliminations (balances : List ICAggregatedBalance) :
    EliminationGenerator :=
  g.emitEach fiscal_period .icBalances (g.balanceEntry fiscal_period entry_date) balances

def revenueExpenseEntry (item : (String × String × ICTransactionType) × ℚ) :
    Option (String → EliminationEntry) :=
  let ((seller, buyer, tx_type), amount) := item
  if amount = 0 then none
  else some fun entry_id =>
    EliminationEntry.create_ic_revenue_expense_elimination entry_id g.config.consolidation_entity
      fiscal_period entry_date seller buyer (revenueAccount tx_type) (expenseAccount tx_type)
      amount g.config.base_currency

/-- The amounts that affect profit or loss, by seller, buyer and type. -/
def revenueTotals (transactions : List ICMatchedPair) :
    List ((String × String × ICTransactionType) × ℚ) :=
  totalsBy (fun tx => (tx.seller_company, tx.buyer_company, tx.transaction_type)) (·.amount)
    (transactions.filter (·.transaction_type.affects_pnl))

def generate_ic_revenue_expense_eliminations (transactions : List ICMatchedPair) :
    EliminationGenerator :=
  g.emitEach fiscal_period .icRevenueExpense (g.revenueExpenseEntry fiscal_period entry_date)
    (order.iter (revenueTotals transactions))

def unrealizedProfitEntry (item : (String × String) × ℚ) : Option (String → EliminationEntry) :=
  let ((seller, buyer), unrealized_profit) := item
  if unrealized_profit < 1 / 100 then none
  else some fun entry_id =>
    EliminationEntry.create_unrealized_profit_elimination entry_id g.config.consolidation_entity
      fiscal_period entry_date seller buyer (roundDp 2 unrealized_profit) g.config.base_currency

/-- The unrealized profit of the goods sold, by seller and buyer. -/
def unrealizedTotals (transactions : List ICMatchedPair) : List ((String × String) × ℚ) :=
  totalsBy (fun tx => (tx.seller_company, tx.buyer_company))
    (fun tx => tx.amount * g.config.average_markup_rate * g.config.ic_inventory_percent)
    (transactions.filter (·.transaction_type = .goodsSale))

def generate_unrealized_profit_eliminations (transactions : List ICMatchedPair) :
    EliminationGenerator :=
  g.emitEach fiscal_period .icProfitInInventory (g.unrealizedProfitEntry fiscal_period entry_date)
    (order.iter (g.unrealizedTotals transactions))

def investmentOf (investment_amounts : OrderedMap String ℚ) (r : IntercompanyRelationship) : ℚ :=
  (investment_amounts.find? (r.parent_company ++ "_" ++ r.subsidiary_company)).getD 0

/-- The supplied equity of a subsidiary, or a split of the investment. -/
def equityComponents (equity_amounts : EquityAmounts) (subsidiary : String) (investment : ℚ) :
    List (String × ℚ) :=
  match equity_amounts.find? subsidiary with
  | some equity => order.iter equity.entries
  | none =>
      [("3100", investment * (10 / 100)), ("3200", investment * (30 / 100)),
        ("3300", investment * (60 / 100))]

def goodwillOf (investment total_equity : ℚ) : Option ℚ :=
  if total_equity < investment then some (investment - total_equity) else none

def minorityInterestOf (ownership_pct total_equity : ℚ) : Option ℚ :=
  if ownership_pct < 100 then some (total_equity * ((100 - ownership_pct) / 100)) else none

def investmentEquityEntry (investment_amounts : OrderedMap String ℚ)
    (equity_amounts : EquityAmounts) (r : IntercompanyRelationship) :
    Option (String → EliminationEntry) :=
  let investment := investmentOf investment_amounts r
  if investment = 0 then none
  else
    let equity_components := equityComponents order equity_amounts r.subsidiary_company investment
    let total_equity := (equity_components.map Prod.snd).sum
    some fun entry_id =>
      EliminationEntry.create_investment_equity_elimination entry_id g.config.consolidation_entity
        fiscal_period entry_date r.parent_company r.subsidiary_company investment equity_components
        (goodwillOf investment total_equity)
        (minorityInterestOf r.ownership_percentage total_equity) g.config.base_currency

def generate_investment_equity_eliminations (investment_amounts : OrderedMap String ℚ)
    (equity_amounts : EquityAmounts) : EliminationGenerator :=
  g.emitEach fiscal_period .investmentEquity
    (g.investmentEquityEntry order fiscal_period entry_date investment_amounts equity_amounts)
    (g.relationships.filter (·.consolidation_method = .full))

/-- The kinds of eliminations that intercompany trade gives rise to. -/
def generateTradeEliminations (ic_balances : List ICAggregatedBalance)
    (ic_transactions : List ICMatchedPair) : EliminationGenerator :=
  let g :=
    if g.config.eliminate_ic_balances then
      g.generate_ic_balance_eliminations fiscal_period entry_date ic_balances
    else g
  let g :=
    if g.config.eliminate_ic_revenue_expense then
      g.generate_ic_revenue_expense_eliminations order fiscal_period entry_date ic_transactions
    else g
  if g.config.eliminate_unrealized_profit then
    g.generate_unrealized_profit_eliminations order fiscal_period entry_date ic_transactions
  else g

/-- All eliminations of a period; every kind can be switched off. -/
def generate_eliminations (ic_balances : List ICAggregatedBalance)
    (ic_transactions : List ICMatchedPair) (investment_amounts : OrderedMap String ℚ)
    (equity_amounts : EquityAmounts) : EliminationGenerator :=
  let g := g.generateTradeEliminations order fiscal_period entry_date ic_balances ic_transactions
  let g :=
    if g.config.eliminate_investment_equity then
      g.generate_investment_equity_eliminations order fiscal_period entry_date investment_amounts
        equity_amounts
    else g
  g.get_or_create_journal fiscal_period

theorem sameSetup_generateTradeEliminations (ic_balances : List ICAggregatedBalance)
    (ic_transactions : List ICMatchedPair) :
    SameSetup g (g.generateTradeEliminations order fiscal_period entry_date ic_balances
      ic_transactions) := by
  simp only [generateTradeEliminations]
  have hstage : ∀ (g₁ g₂ : EliminationGenerator) (flag : Bool), SameSetup g₁ g₂ →
      SameSetup g₁ (if flag then g₂ else g₁) := by
    intro g₁ g₂ flag h
    cases flag with
    | true => exact h
    | false => exact ⟨rfl, rfl⟩
  refine SameSetup.trans ?_ (hstage _ _ _ (sameSetup_emitEach _ _ _ _ _))
  exact SameSetup.trans (hstage _ _ _ (sameSetup_emitEach _ _ _ _ _))
    (hstage _ _ _ (sameSetup_emitEach _ _ _ _ _))

theorem sameSetup_generate_eliminations (ic_balances : List ICAggregatedBalance)
    (ic_transactions : List ICMatchedPair) (investment_amounts : OrderedMap String ℚ)
    (equity_amounts : EquityAmounts) :
    SameSetup g (g.generate_eliminations order fiscal_period entry_date ic_balances
      ic_transactions investment_amounts equity_amounts) := by
  have htrade := sameSetup_generateTradeEliminations order g fiscal_period entry_date ic_balances
    ic_transactions
  simp only [generate_eliminations]
  split
  · exact htrade.trans (SameSetup.trans (sameSetup_emitEach _ _ _ _ _) ⟨rfl, rfl⟩)
  · exact htrade.trans ⟨rfl, rfl⟩

def dividendEntry (paying_company receiving_company : String) (dividend_amount : ℚ)
    (entry_id : String) : EliminationEntry :=
  let entry := EliminationEntry.new entry_id .icDividends g.config.consolidation_entity
    fiscal_period entry_date g.config.base_currency
  let entry := { entry with
    related_companies := [paying_company, receiving_company]
    description := s!"Eliminate IC dividend from {paying_company} to {receiving_company}" }
  let entry := entry.add_line
    { line_number := 1, company := receiving_company, account := "4600", is_debit := true
      amount := dividend_amount, currency := g.config.base_currency
      description := "Eliminate dividend income" }
  entry.add_line
    { line_number := 2, company := paying_company, account := "3300", is_debit := false
      amount := dividend_amount, currency := g.config.base_currency
      description := "Restore retained earnings" }

def generate_dividend_elimination (paying_company receiving_company : String)
    (dividend_amount : ℚ) : EliminationGenerator :=
  g.emit fiscal_period .icDividends
    (g.dividendEntry fiscal_period entry_date paying_company receiving_company dividend_amount)

/-- The two lines of a minority share: a profit raises the interest, a loss lowers it. -/
def minorityEntry (subsidiary : String) (net_income minority_share : ℚ) (entry_id : String) :
    EliminationEntry :=
  let entry := EliminationEntry.new entry_id .minorityInterest g.config.consolidation_entity
    fiscal_period entry_date g.config.base_currency
  let entry := { entry with
    related_companies := [subsidiary]
    description := s!"Minority interest share of {subsidiary} profit/loss" }
  if 0 < net_income then
    let entry := entry.add_line
      { line_number := 1, company := g.config.consolidation_entity, account := "3400"
        is_debit := true, amount := minority_share, currency := g.config.base_currency
        description := "NCI share of net income" }
    entry.add_line
      { line_number := 2, company := g.config.consolidation_entity, account := "3500"
        is_debit := false, amount := minority_share, currency := g.config.base_currency
        description := "Increase NCI for share of income" }
  else
    let entry := entry.add_line
      { line_number := 1, company := g.config.consolidation_entity, account := "3500"
        is_debit := true, amount := |minority_share|, currency := g.config.base_currency
        description := "Decrease NCI for share of loss" }
    entry.add_line
      { line_number := 2, company := g.config.consolidation_entity, account := "3400"
        is_debit := false, amount := |minority_share|, currency := g.config.base_currency
        description := "NCI share of net loss" }

def generate_minority_interest_allocation (subsidiary : String)
    (net_income minority_percentage : ℚ) : EliminationGenerator :=
  if minority_percentage ≤ 0 ∨ 100 ≤ minority_percentage then g
  else
    let minority_share := net_income * minority_percentage / 100
    if |minority_share| < 1 / 100 then g
    else
      g.emit fiscal_period .minorityInterest
        (g.minorityEntry fiscal_period entry_date subsidiary net_income minority_share)

end Calls

def mapJournal (g : EliminationGenerator) (fiscal_period : String)
    (f : ConsolidationJournal → ConsolidationJournal) : EliminationGenerator :=
  match g.journals.find? fiscal_period with
  | none => g
  | some journal => { g with journals := g.journals.insert fiscal_period (f journal) }

def finalize_journal (g : EliminationGenerator) (fiscal_period approved_by : String) :
    EliminationGenerator :=
  g.mapJournal fiscal_period fun journal => journal.submit.approve approved_by

def post_journal (g : EliminationGenerator) (fiscal_period : String) : EliminationGenerator :=
  g.mapJournal fiscal_period (·.post)

def reset (g : EliminationGenerator) : EliminationGenerator :=
  { g with entry_counter := 0, journals := OrderedMap.empty }

end EliminationGenerator

end Datasynth.Generators.Consolidation
