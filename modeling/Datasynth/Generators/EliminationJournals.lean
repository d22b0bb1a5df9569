import Mathlib
import Datasynth.Core.JournalEntries
import Datasynth.Core.TrialBalances
import Datasynth.Generators.Consolidation

/-!
Runs of the elimination generator, the conversion of eliminations to journal entries,
and when none of them is dropped.
-/

namespace Datasynth.Generators.EliminationJournals

open Datasynth.Core.EliminationEntries
open Datasynth.Core.JournalEntries
open Datasynth.Core.TrialBalances
open Datasynth.Generators.Consolidation
open Datasynth.Lib.CivilCalendar
open Datasynth.Lib.HalfEvenRounding
open Datasynth.Lib.HashIteration
open Datasynth.Lib.SortedEntries

/-- The year and month of a `YYYYMM` text.  Six bytes of which the fourth ends inside a
character make the source panic; here they are no period. -/
def parsePeriod (fiscal_period : String) : Option (ℕ × ℕ) :=
  if fiscal_period.utf8ByteSize = 6 then do
    let year ← (parse_u32 (String.ofList (fiscal_period.toList.take 4))).filter (· < 2 ^ 16)
    let month ← (parse_u32 (String.ofList (fiscal_period.toList.drop 4))).filter (· < 2 ^ 8)
    return (year, month)
  else none

def eliminationHeader (elim : EliminationEntry) : JournalEntryHeader :=
  let header := JournalEntryHeader.new elim.consolidation_entity elim.entry_date
  let header := { header with
    document_type := "ELIMINATION"
    created_by := "CONSOLIDATION"
    currency := elim.currency
    header_text := some elim.description
    is_elimination := true }
  match parsePeriod elim.fiscal_period with
  | some (year, month) => { header with fiscal_year := year, fiscal_period := month }
  | none => header

def eliminationLine (line_number : ℕ) (line : EliminationLine) : JournalEntryLine :=
  if line.is_debit then JournalEntryLine.debit line_number line.account line.amount
  else JournalEntryLine.credit line_number line.account line.amount

/-- The journal entry of a balanced elimination; an unbalanced one has none. -/
def eliminationToJournalEntry (elim : EliminationEntry) : Option JournalEntry :=
  if elim.is_balanced then
    some ((elim.lines.zipIdx 1).foldl (fun je e => je.add_line (eliminationLine e.2 e.1))
      (JournalEntry.new (eliminationHeader elim)))
  else none

def elimination_to_journal_entries (entries : List EliminationEntry) : List JournalEntry :=
  entries.filterMap eliminationToJournalEntry

theorem lines_foldl_add_line (rows : List (EliminationLine × ℕ)) (je : JournalEntry) :
    (rows.foldl (fun je e => je.add_line (eliminationLine e.2 e.1)) je).lines =
      je.lines ++ rows.map fun e => eliminationLine e.2 e.1 := by
  induction rows generalizing je with
  | nil => simp
  | cons e rows ih => simp [ih]

theorem total_debit_of_eliminationToJournalEntry {elim : EliminationEntry} {je : JournalEntry}
    (htallied : elim.Tallied) (h : eliminationToJournalEntry elim = some je) :
    je.total_debit = elim.total_debit := by
  have hrows : ∀ (lines : List EliminationLine) (n : ℕ),
      ((lines.zipIdx n).map fun e => (eliminationLine e.2 e.1).debit_amount).sum =
        sideTotal true lines := by
    intro lines
    induction lines with
    | nil => simp
    | cons line lines ih =>
        intro n
        rw [List.zipIdx_cons, List.map_cons, List.sum_cons, ih, sideTotal_cons]
        cases hside : line.is_debit <;>
          simp [eliminationLine, hside, JournalEntryLine.debit, JournalEntryLine.credit]
  rw [eliminationToJournalEntry] at h
  split at h
  · cases h
    rw [JournalEntry.total_debit, lines_foldl_add_line, htallied.debit, ← hrows elim.lines 1]
    simp [JournalEntry.new, Function.comp_def]
  · cases h

/-- The conversion of a journal drops no entry and keeps the debits. -/
structure Converts (entries : List EliminationEntry) : Prop where
  balanced : ∀ entry ∈ entries, entry.is_balanced = true
  kept : List.Forall₂ (fun entry je => je.total_debit = entry.total_debit) entries
    (elimination_to_journal_entries entries)
  total : ((elimination_to_journal_entries entries).map (·.total_debit)).sum =
    (entries.map (·.total_debit)).sum

theorem converts_iff {entries : List EliminationEntry} (htallied : ∀ entry ∈ entries, entry.Tallied) :
    Converts entries ↔ ∀ entry ∈ entries, entry.is_balanced = true := by
  refine ⟨Converts.balanced, ?_⟩
  intro hbalanced
  have hkept : List.Forall₂ (fun entry je => je.total_debit = entry.total_debit) entries
      (elimination_to_journal_entries entries) := by
    induction entries with
    | nil => exact .nil
    | cons entry entries ih =>
        have hentry : ∃ je, eliminationToJournalEntry entry = some je := by
          rw [eliminationToJournalEntry, if_pos (hbalanced entry List.mem_cons_self)]
          exact ⟨_, rfl⟩
        obtain ⟨je, hje⟩ := hentry
        rw [elimination_to_journal_entries, List.filterMap_cons, hje]
        refine .cons (total_debit_of_eliminationToJournalEntry
          (htallied entry List.mem_cons_self) hje) (ih ?_ ?_)
        · exact fun e he => htallied e (List.mem_cons_of_mem _ he)
        · exact fun e he => hbalanced e (List.mem_cons_of_mem _ he)
  refine ⟨hbalanced, hkept, ?_⟩
  generalize elimination_to_journal_entries entries = jes at hkept
  clear htallied hbalanced
  induction hkept with
  | nil => rfl
  | cons hje _ ih => rw [List.map_cons, List.sum_cons, hje, ih, List.map_cons, List.sum_cons]

def AllEntries (P : EliminationEntry → Prop) (g : EliminationGenerator) : Prop :=
  ∀ period journal, g.journals.find? period = some journal → ∀ entry ∈ journal.entries, P entry

section AllEntries

variable {P : EliminationEntry → Prop} {g : EliminationGenerator} {fiscal_period : String}

theorem allEntries_new (config : EliminationConfig) (relationships : List IntercompanyRelationship) :
    AllEntries P (EliminationGenerator.new config relationships) := by
  rintro period journal h
  cases h

theorem allEntries_withJournal {f : ConsolidationJournal → ConsolidationJournal}
    (added : List EliminationEntry) (hf : ∀ journal, (f journal).entries = journal.entries ++ added) :
    AllEntries P (g.withJournal fiscal_period f) ↔ AllEntries P g ∧ ∀ entry ∈ added, P entry := by
  have hfind : ∀ period, (g.withJournal fiscal_period f).journals.find? period =
      if period = fiscal_period then
        some (f ((g.journals.find? fiscal_period).getD
          (ConsolidationJournal.new g.config.consolidation_entity fiscal_period)))
      else g.journals.find? period := fun period => OrderedMap.find?_upsert _ _ _ _
  constructor
  · intro h
    constructor
    · intro period journal hjournal entry hentry
      by_cases hperiod : period = fiscal_period
      · subst hperiod
        refine h period _ ((hfind period).trans (if_pos rfl)) entry ?_
        rw [hf, hjournal, Option.getD_some, List.mem_append]
        exact .inl hentry
      · exact h period journal (((hfind period).trans (if_neg hperiod)).trans hjournal) entry hentry
    · intro entry hentry
      refine h fiscal_period _ ((hfind fiscal_period).trans (if_pos rfl)) entry ?_
      rw [hf, List.mem_append]
      exact .inr hentry
  · rintro ⟨hg, hadded⟩ period journal hjournal entry hentry
    rw [hfind] at hjournal
    split at hjournal
    · cases hjournal
      rw [hf, List.mem_append] at hentry
      rcases hentry with hentry | hentry
      · cases hold : g.journals.find? fiscal_period with
        | none => simp [hold, ConsolidationJournal.new] at hentry
        | some journal =>
            rw [hold, Option.getD_some] at hentry
            exact hg fiscal_period journal hold entry hentry
      · exact hadded entry hentry
    · exact hg period journal hjournal entry hentry

theorem allEntries_get_or_create_journal :
    AllEntries P (g.get_or_create_journal fiscal_period) ↔ AllEntries P g := by
  rw [EliminationGenerator.get_or_create_journal,
    allEntries_withJournal [] fun journal => by simp]
  simp

theorem allEntries_emit {elim_type : EliminationType} {build : String → EliminationEntry} :
    AllEntries P (g.emit fiscal_period elim_type build) ↔
      AllEntries P g ∧ P (build (g.generate_entry_id elim_type).1) := by
  rw [EliminationGenerator.emit,
    allEntries_withJournal [build (g.generate_entry_id elim_type).1] fun journal => rfl,
    List.forall_mem_singleton]
  rfl

/-- A loop adds the entries of its items; what they satisfy must not depend on their ids. -/
theorem allEntries_emitEach {α : Type} {elim_type : EliminationType}
    {build : α → Option (String → EliminationEntry)} {Q : α → Prop}
    (hbuild : ∀ item entry, build item = some entry → ∀ entry_id, P (entry entry_id) ↔ Q item)
    (items : List α) :
    AllEntries P (g.emitEach fiscal_period elim_type build items) ↔
      AllEntries P g ∧ ∀ item ∈ items, build item ≠ none → Q item := by
  induction items generalizing g with
  | nil => simp [EliminationGenerator.emitEach]
  | cons item items ih =>
      rw [EliminationGenerator.emitEach, List.foldl_cons, ← EliminationGenerator.emitEach, ih,
        List.forall_mem_cons]
      cases hitem : build item with
      | none => simp
      | some entry =>
          rw [allEntries_emit, hbuild item entry hitem]
          simp [and_assoc]

theorem allEntries_mapJournal {f : ConsolidationJournal → ConsolidationJournal}
    (hf : ∀ journal, (f journal).entries = journal.entries) :
    AllEntries P (g.mapJournal fiscal_period f) ↔ AllEntries P g := by
  rw [EliminationGenerator.mapJournal]
  cases hold : g.journals.find? fiscal_period with
  | none => rfl
  | some old =>
      have hfind : ∀ period, (g.journals.insert fiscal_period (f old)).find? period =
          if period = fiscal_period then some (f old) else g.journals.find? period :=
        fun period => OrderedMap.find?_insert _ _ _ _
      constructor
      · intro h period journal hjournal entry hentry
        by_cases hperiod : period = fiscal_period
        · subst hperiod
          rw [hold] at hjournal
          cases hjournal
          refine h period (f old) ((hfind period).trans (if_pos rfl)) entry ?_
          rwa [hf]
        · exact h period journal (((hfind period).trans (if_neg hperiod)).trans hjournal) entry
            hentry
      · intro h period journal hjournal entry hentry
        have hjournal := (hfind period).symm.trans hjournal
        split at hjournal
        · cases hjournal
          rw [hf] at hentry
          exact h fiscal_period old hold entry hentry
        · exact h period journal hjournal entry hentry

end AllEntries

structure Paired (entry : EliminationEntry) : Prop where
  tallied : entry.Tallied
  balanced : entry.is_balanced = true

theorem paired_of_lines {entry : EliminationEntry} {debit credit : EliminationLine}
    (htallied : entry.Tallied) (hopen : entry.total_debit = entry.total_credit)
    (hdebit : debit.is_debit = true) (hcredit : credit.is_debit = false)
    (hamount : debit.amount = credit.amount) : Paired ((entry.add_line debit).add_line credit) := by
  refine ⟨(htallied.add_line debit).add_line credit, ?_⟩
  rw [EliminationEntry.is_balanced, decide_eq_true_iff]
  simp [EliminationEntry.add_line, hdebit, hcredit, hamount, hopen]

theorem paired_dividendEntry (g : EliminationGenerator) (fiscal_period : String) (entry_date : Date)
    (paying_company receiving_company : String) (dividend_amount : ℚ) (entry_id : String) :
    Paired (g.dividendEntry fiscal_period entry_date paying_company receiving_company
      dividend_amount entry_id) :=
  paired_of_lines ⟨rfl, rfl⟩ rfl rfl rfl rfl

theorem paired_minorityEntry (g : EliminationGenerator) (fiscal_period : String) (entry_date : Date)
    (subsidiary : String) (net_income minority_share : ℚ) (entry_id : String) :
    Paired (g.minorityEntry fiscal_period entry_date subsidiary net_income minority_share
      entry_id) := by
  rw [EliminationGenerator.minorityEntry]
  split
  · exact paired_of_lines ⟨rfl, rfl⟩ rfl rfl rfl rfl
  · exact paired_of_lines ⟨rfl, rfl⟩ rfl rfl rfl rfl

section Pairs

variable {P : EliminationEntry → Prop} (hP : ∀ entry, Paired entry → P entry)
  (order : HashOrder) (g : EliminationGenerator) (fiscal_period : String) (entry_date : Date)

include hP

theorem allEntries_generate_ic_balance (balances : List ICAggregatedBalance) :
    AllEntries P (g.generate_ic_balance_eliminations fiscal_period entry_date balances) ↔
      AllEntries P g := by
  rw [EliminationGenerator.generate_ic_balance_eliminations,
    allEntries_emitEach (Q := fun _ => True)]
  · simp
  · intro balance entry hentry entry_id
    rw [EliminationGenerator.balanceEntry] at hentry
    split at hentry
    · cases hentry
    · cases hentry
      exact iff_true_intro (hP _ (paired_of_lines ⟨rfl, rfl⟩ rfl rfl rfl rfl))

theorem allEntries_generate_ic_revenue_expense (transactions : List ICMatchedPair) :
    AllEntries P (g.generate_ic_revenue_expense_eliminations order fiscal_period entry_date
      transactions) ↔ AllEntries P g := by
  rw [EliminationGenerator.generate_ic_revenue_expense_eliminations,
    allEntries_emitEach (Q := fun _ => True)]
  · simp
  · rintro ⟨⟨seller, buyer, tx_type⟩, amount⟩ entry hentry entry_id
    simp only [EliminationGenerator.revenueExpenseEntry] at hentry
    split at hentry
    · cases hentry
    · cases hentry
      exact iff_true_intro (hP _ (paired_of_lines ⟨rfl, rfl⟩ rfl rfl rfl rfl))

theorem allEntries_generate_unrealized_profit (transactions : List ICMatchedPair) :
    AllEntries P (g.generate_unrealized_profit_eliminations order fiscal_period entry_date
      transactions) ↔ AllEntries P g := by
  rw [EliminationGenerator.generate_unrealized_profit_eliminations,
    allEntries_emitEach (Q := fun _ => True)]
  · simp
  · rintro ⟨⟨seller, buyer⟩, unrealized_profit⟩ entry hentry entry_id
    simp only [EliminationGenerator.unrealizedProfitEntry] at hentry
    split at hentry
    · cases hentry
    · cases hentry
      exact iff_true_intro (hP _ (paired_of_lines ⟨rfl, rfl⟩ rfl rfl rfl rfl))

theorem allEntries_generateTradeEliminations (ic_balances : List ICAggregatedBalance)
    (ic_transactions : List ICMatchedPair) :
    AllEntries P (g.generateTradeEliminations order fiscal_period entry_date ic_balances
      ic_transactions) ↔ AllEntries P g := by
  have hstage : ∀ (g₁ g₂ : EliminationGenerator) (flag : Bool),
      (AllEntries P g₂ ↔ AllEntries P g₁) →
        (AllEntries P (if flag then g₂ else g₁) ↔ AllEntries P g₁) := by
    intro g₁ g₂ flag h
    cases flag with
    | true => exact h
    | false => rfl
  simp only [EliminationGenerator.generateTradeEliminations]
  rw [hstage _ _ _ (allEntries_generate_unrealized_profit hP _ _ _ _ _),
    hstage _ _ _ (allEntries_generate_ic_revenue_expense hP _ _ _ _ _),
    hstage _ _ _ (allEntries_generate_ic_balance hP _ _ _ _)]

theorem allEntries_generate_dividend (paying_company receiving_company : String)
    (dividend_amount : ℚ) :
    AllEntries P (g.generate_dividend_elimination fiscal_period entry_date paying_company
      receiving_company dividend_amount) ↔ AllEntries P g := by
  rw [EliminationGenerator.generate_dividend_elimination, allEntries_emit]
  exact and_iff_left (hP _ (paired_dividendEntry g _ _ _ _ _ _))

theorem allEntries_generate_minority_interest (subsidiary : String)
    (net_income minority_percentage : ℚ) :
    AllEntries P (g.generate_minority_interest_allocation fiscal_period entry_date subsidiary
      net_income minority_percentage) ↔ AllEntries P g := by
  simp only [EliminationGenerator.generate_minority_interest_allocation]
  split
  · rfl
  · split
    · rfl
    · rw [allEntries_emit]
      exact and_iff_left (hP _ (paired_minorityEntry g _ _ _ _ _ _))

end Pairs

/-- The investment carries the minority interest: with minorities it is the parent's
share of the equity and less than all of it, or there is no equity and nothing to
share; without, it is no bargain purchase. -/
def CarriesMinority (ownership_pct investment total_equity : ℚ) : Prop :=
  if ownership_pct < 100 then
    (total_equity = 0 ∧ 0 < investment) ∨
      (investment < total_equity ∧ investment = total_equity * (ownership_pct / 100))
  else total_equity ≤ investment

instance (ownership_pct investment total_equity : ℚ) :
    Decidable (CarriesMinority ownership_pct investment total_equity) := by
  unfold CarriesMinority
  infer_instance

theorem carriesMinority_iff {ownership_pct investment total_equity : ℚ} (hne : investment ≠ 0) :
    total_equity + (EliminationGenerator.goodwillOf investment total_equity).getD 0 =
        investment + (EliminationGenerator.minorityInterestOf ownership_pct total_equity).getD 0 ↔
      CarriesMinority ownership_pct investment total_equity := by
  rw [EliminationGenerator.goodwillOf, EliminationGenerator.minorityInterestOf, CarriesMinority]
  by_cases hpct : ownership_pct < 100
  · have hshare : (100 - ownership_pct) / 100 ≠ 0 := by
      have : 0 < 100 - ownership_pct := by linarith
      positivity
    rw [if_pos hpct, if_pos hpct, Option.getD_some]
    by_cases hgoodwill : total_equity < investment
    · rw [if_pos hgoodwill, Option.getD_some]
      constructor
      · intro h
        have hzero : total_equity * ((100 - ownership_pct) / 100) = 0 := by linarith
        have hequity : total_equity = 0 := (mul_eq_zero.mp hzero).resolve_right hshare
        exact .inl ⟨hequity, hequity ▸ hgoodwill⟩
      · rintro (⟨rfl, -⟩ | ⟨hlt, -⟩)
        · ring
        · exact absurd hlt hgoodwill.asymm
    · rw [if_neg hgoodwill, Option.getD_none]
      constructor
      · intro h
        have hvalue : investment = total_equity * (ownership_pct / 100) := by linarith
        refine .inr ⟨lt_of_le_of_ne (not_lt.mp hgoodwill) ?_, hvalue⟩
        rintro rfl
        have hzero : investment * ((100 - ownership_pct) / 100) = 0 := by linarith
        exact hne ((mul_eq_zero.mp hzero).resolve_right hshare)
      · rintro (⟨rfl, hpos⟩ | ⟨-, hvalue⟩)
        · exact absurd hpos hgoodwill
        · linarith
  · rw [if_neg hpct, if_neg hpct, Option.getD_none, add_zero]
    by_cases hgoodwill : total_equity < investment
    · rw [if_pos hgoodwill, Option.getD_some]
      exact iff_of_true (by ring) hgoodwill.le
    · rw [if_neg hgoodwill, Option.getD_none, add_zero]
      exact ⟨le_of_eq, fun h => le_antisymm h (not_lt.mp hgoodwill)⟩

/-- The equity against which an investment is eliminated: what is supplied for the
subsidiary or else the investment itself. -/
def totalEquity (equity_amounts : EquityAmounts) (subsidiary : String) (investment : ℚ) : ℚ :=
  ((equity_amounts.find? subsidiary).map fun equity => equity.values.sum).getD investment

theorem sum_equityComponents (order : HashOrder) (equity_amounts : EquityAmounts)
    (subsidiary : String) (investment : ℚ) :
    ((EliminationGenerator.equityComponents order equity_amounts subsidiary investment).map
      Prod.snd).sum = totalEquity equity_amounts subsidiary investment := by
  rw [EliminationGenerator.equityComponents, totalEquity]
  cases equity_amounts.find? subsidiary with
  | some equity => exact ((order.perm equity.entries).map Prod.snd).sum_eq
  | none =>
      rw [Option.map_none, Option.getD_none]
      simp only [List.map_cons, List.map_nil, List.sum_cons, List.sum_nil]
      ring

/-- Every consolidated investment carries the minority interest of its subsidiary. -/
def InvestmentsCarryMinorities (relationships : List IntercompanyRelationship)
    (investment_amounts : OrderedMap String ℚ) (equity_amounts : EquityAmounts) : Prop :=
  ∀ r ∈ relationships, r.consolidation_method = .full →
    EliminationGenerator.investmentOf investment_amounts r ≠ 0 →
      CarriesMinority r.ownership_percentage
        (EliminationGenerator.investmentOf investment_amounts r)
        (totalEquity equity_amounts r.subsidiary_company
          (EliminationGenerator.investmentOf investment_amounts r))

section Investments

variable (order : HashOrder) (g : EliminationGenerator) (fiscal_period : String) (entry_date : Date)
  (investment_amounts : OrderedMap String ℚ) (equity_amounts : EquityAmounts)

theorem allTallied_generate_investment_equity :
    AllEntries EliminationEntry.Tallied (g.generate_investment_equity_eliminations order
      fiscal_period entry_date investment_amounts equity_amounts) ↔
        AllEntries EliminationEntry.Tallied g := by
  rw [EliminationGenerator.generate_investment_equity_eliminations,
    allEntries_emitEach (Q := fun _ => True)]
  · simp
  · intro r entry hentry entry_id
    simp only [EliminationGenerator.investmentEquityEntry] at hentry
    split at hentry
    · cases hentry
    · cases hentry
      exact iff_true_intro (EliminationEntry.Tallied.addNumbered ⟨rfl, rfl⟩ 1 _)

theorem allBalanced_generate_investment_equity :
    AllEntries (·.is_balanced = true) (g.generate_investment_equity_eliminations order
      fiscal_period entry_date investment_amounts equity_amounts) ↔
        AllEntries (·.is_balanced = true) g ∧
          InvestmentsCarryMinorities g.relationships investment_amounts equity_amounts := by
  rw [EliminationGenerator.generate_investment_equity_eliminations,
    allEntries_emitEach (Q := fun r => CarriesMinority r.ownership_percentage
      (EliminationGenerator.investmentOf investment_amounts r)
      (totalEquity equity_amounts r.subsidiary_company
        (EliminationGenerator.investmentOf investment_amounts r)))]
  · refine and_congr_right fun _ => ?_
    simp only [InvestmentsCarryMinorities, List.mem_filter, decide_eq_true_eq, and_imp,
      EliminationGenerator.investmentEquityEntry]
    refine forall₃_congr fun r _ _ => imp_congr_left ?_
    split <;> simp [*]
  · intro r entry hentry entry_id
    simp only [EliminationGenerator.investmentEquityEntry] at hentry
    split at hentry
    · cases hentry
    · rename_i hne
      cases hentry
      rw [EliminationEntry.is_balanced_create_investment_equity, sum_equityComponents]
      exact carriesMinority_iff hne

end Investments

inductive Call where
  | generate_eliminations (fiscal_period : String) (entry_date : Date)
      (ic_balances : List ICAggregatedBalance) (ic_transactions : List ICMatchedPair)
      (investment_amounts : OrderedMap String ℚ) (equity_amounts : EquityAmounts)
  | generate_ic_balance_eliminations (fiscal_period : String) (entry_date : Date)
      (balances : List ICAggregatedBalance)
  | generate_ic_revenue_expense_eliminations (fiscal_period : String) (entry_date : Date)
      (transactions : List ICMatchedPair)
  | generate_unrealized_profit_eliminations (fiscal_period : String) (entry_date : Date)
      (transactions : List ICMatchedPair)
  | generate_investment_equity_eliminations (fiscal_period : String) (entry_date : Date)
      (investment_amounts : OrderedMap String ℚ) (equity_amounts : EquityAmounts)
  | generate_dividend_elimination (fiscal_period : String) (entry_date : Date)
      (paying_company receiving_company : String) (dividend_amount : ℚ)
  | generate_minority_interest_allocation (fiscal_period : String) (entry_date : Date)
      (subsidiary : String) (net_income minority_percentage : ℚ)
  | finalize_journal (fiscal_period approved_by : String)
  | post_journal (fiscal_period : String)
  | reset

def Call.run (order : HashOrder) (g : EliminationGenerator) : Call → EliminationGenerator
  | generate_eliminations period date balances transactions investments equity =>
      g.generate_eliminations order period date balances transactions investments equity
  | generate_ic_balance_eliminations period date balances =>
      g.generate_ic_balance_eliminations period date balances
  | generate_ic_revenue_expense_eliminations period date transactions =>
      g.generate_ic_revenue_expense_eliminations order period date transactions
  | generate_unrealized_profit_eliminations period date transactions =>
      g.generate_unrealized_profit_eliminations order period date transactions
  | generate_investment_equity_eliminations period date investments equity =>
      g.generate_investment_equity_eliminations order period date investments equity
  | generate_dividend_elimination period date paying receiving amount =>
      g.generate_dividend_elimination period date paying receiving amount
  | generate_minority_interest_allocation period date subsidiary net_income percentage =>
      g.generate_minority_interest_allocation period date subsidiary net_income percentage
  | finalize_journal period approved_by => g.finalize_journal period approved_by
  | post_journal period => g.post_journal period
  | reset => g.reset

/-- The states of a run of calls, each with the order in which its hash maps happen to
be iterated. -/
def states (g : EliminationGenerator) : List (HashOrder × Call) → List EliminationGenerator
  | [] => [g]
  | (order, call) :: calls => g :: states (call.run order g) calls

/-- What a call asks of its investments; the other calls ask nothing. -/
def Call.CarriesMinorities (config : EliminationConfig)
    (relationships : List IntercompanyRelationship) : Call → Prop
  | generate_eliminations _ _ _ _ investments equity =>
      config.eliminate_investment_equity = true →
        InvestmentsCarryMinorities relationships investments equity
  | generate_investment_equity_eliminations _ _ investments equity =>
      InvestmentsCarryMinorities relationships investments equity
  | _ => True

section Runs

variable (order : HashOrder) (g : EliminationGenerator)

open EliminationGenerator

theorem sameSetup_run (call : Call) : SameSetup g (call.run order g) := by
  cases call with
  | generate_eliminations => exact sameSetup_generate_eliminations _ _ _ _ _ _ _ _
  | generate_ic_balance_eliminations => exact sameSetup_emitEach _ _ _ _ _
  | generate_ic_revenue_expense_eliminations => exact sameSetup_emitEach _ _ _ _ _
  | generate_unrealized_profit_eliminations => exact sameSetup_emitEach _ _ _ _ _
  | generate_investment_equity_eliminations => exact sameSetup_emitEach _ _ _ _ _
  | generate_dividend_elimination => exact ⟨rfl, rfl⟩
  | generate_minority_interest_allocation =>
      simp only [Call.run, generate_minority_interest_allocation]
      split
      · exact ⟨rfl, rfl⟩
      · split
        · exact ⟨rfl, rfl⟩
        · exact ⟨rfl, rfl⟩
  | finalize_journal =>
      simp only [Call.run, finalize_journal, mapJournal]
      split
      · exact ⟨rfl, rfl⟩
      · exact ⟨rfl, rfl⟩
  | post_journal =>
      simp only [Call.run, post_journal, mapJournal]
      split
      · exact ⟨rfl, rfl⟩
      · exact ⟨rfl, rfl⟩
  | reset => exact ⟨rfl, rfl⟩

theorem entries_approve_submit (journal : ConsolidationJournal) (approved_by : String) :
    (journal.submit.approve approved_by).entries = journal.entries := by
  rw [ConsolidationJournal.submit]
  split
  · rfl
  · rfl

theorem entries_post (journal : ConsolidationJournal) : journal.post.entries = journal.entries := by
  rw [ConsolidationJournal.post]
  split
  · rfl
  · rfl

/-- Every entry a call makes has the totals of its lines. -/
theorem allTallied_run (call : Call) (h : AllEntries EliminationEntry.Tallied g) :
    AllEntries EliminationEntry.Tallied (call.run order g) := by
  have hP : ∀ entry, Paired entry → entry.Tallied := fun _ => Paired.tallied
  cases call with
  | generate_eliminations period date balances transactions =>
      have htrade := (allEntries_generateTradeEliminations hP order g period date balances
        transactions).mpr h
      simp only [Call.run, generate_eliminations, allEntries_get_or_create_journal]
      split
      · exact (allTallied_generate_investment_equity _ _ _ _ _ _).mpr htrade
      · exact htrade
  | generate_ic_balance_eliminations => exact (allEntries_generate_ic_balance hP _ _ _ _).mpr h
  | generate_ic_revenue_expense_eliminations =>
      exact (allEntries_generate_ic_revenue_expense hP _ _ _ _ _).mpr h
  | generate_unrealized_profit_eliminations =>
      exact (allEntries_generate_unrealized_profit hP _ _ _ _ _).mpr h
  | generate_investment_equity_eliminations =>
      exact (allTallied_generate_investment_equity _ _ _ _ _ _).mpr h
  | generate_dividend_elimination => exact (allEntries_generate_dividend hP _ _ _ _ _ _).mpr h
  | generate_minority_interest_allocation =>
      exact (allEntries_generate_minority_interest hP _ _ _ _ _ _).mpr h
  | finalize_journal =>
      exact (allEntries_mapJournal fun journal => entries_approve_submit journal _).mpr h
  | post_journal => exact (allEntries_mapJournal entries_post).mpr h
  | reset => exact allEntries_new g.config g.relationships

/-- The entries are balanced after a call when they were before and the call's
investments carry the minority interests; only a reset forgets. -/
theorem allBalanced_run_iff (call : Call) (h : AllEntries (·.is_balanced = true) g) :
    AllEntries (·.is_balanced = true) (call.run order g) ↔
      call.CarriesMinorities g.config g.relationships := by
  have hP : ∀ entry, Paired entry → entry.is_balanced = true := fun _ => Paired.balanced
  cases call with
  | generate_eliminations period date balances transactions investments equity =>
      have htrade := (allEntries_generateTradeEliminations hP order g period date balances
        transactions).mpr h
      have hsame := sameSetup_generateTradeEliminations order g period date balances transactions
      simp only [Call.run, generate_eliminations, allEntries_get_or_create_journal,
        Call.CarriesMinorities]
      split
      · rename_i hflag
        rw [allBalanced_generate_investment_equity, hsame.relationships]
        rw [hsame.config] at hflag
        exact ⟨fun hall _ => hall.2, fun hcarry => ⟨htrade, hcarry hflag⟩⟩
      · rename_i hflag
        rw [hsame.config] at hflag
        exact iff_of_true htrade fun h' => absurd h' hflag
  | generate_ic_balance_eliminations =>
      exact iff_of_true ((allEntries_generate_ic_balance hP _ _ _ _).mpr h) trivial
  | generate_ic_revenue_expense_eliminations =>
      exact iff_of_true ((allEntries_generate_ic_revenue_expense hP _ _ _ _ _).mpr h) trivial
  | generate_unrealized_profit_eliminations =>
      exact iff_of_true ((allEntries_generate_unrealized_profit hP _ _ _ _ _).mpr h) trivial
  | generate_investment_equity_eliminations =>
      exact (allBalanced_generate_investment_equity _ _ _ _ _ _).trans (and_iff_right h)
  | generate_dividend_elimination =>
      exact iff_of_true ((allEntries_generate_dividend hP _ _ _ _ _ _).mpr h) trivial
  | generate_minority_interest_allocation =>
      exact iff_of_true ((allEntries_generate_minority_interest hP _ _ _ _ _ _).mpr h) trivial
  | finalize_journal =>
      exact iff_of_true
        ((allEntries_mapJournal fun journal => entries_approve_submit journal _).mpr h) trivial
  | post_journal => exact iff_of_true ((allEntries_mapJournal entries_post).mpr h) trivial
  | reset => exact iff_of_true (allEntries_new g.config g.relationships) trivial

/-- Every journal of a generator is converted without loss. -/
def AllConvert (g : EliminationGenerator) : Prop :=
  ∀ period journal, g.journals.find? period = some journal → Converts journal.entries

theorem allConvert_iff (h : AllEntries EliminationEntry.Tallied g) :
    AllConvert g ↔ AllEntries (·.is_balanced = true) g :=
  forall₃_congr fun period journal hjournal => converts_iff (h period journal hjournal)

theorem allConvert_states_iff (calls : List (HashOrder × Call))
    (htallied : AllEntries EliminationEntry.Tallied g)
    (hbalanced : AllEntries (·.is_balanced = true) g) :
    (∀ state ∈ states g calls, AllConvert state) ↔
      ∀ call ∈ calls, call.2.CarriesMinorities g.config g.relationships := by
  induction calls generalizing g with
  | nil =>
      rw [states, List.forall_mem_singleton]
      exact iff_of_true ((allConvert_iff g htallied).mpr hbalanced) (List.forall_mem_nil _)
  | cons step calls ih =>
      obtain ⟨order, call⟩ := step
      have htallied' := allTallied_run order g call htallied
      have hsame := sameSetup_run order g call
      have hfirst :
          AllConvert (call.run order g) ↔ call.CarriesMinorities g.config g.relationships :=
        (allConvert_iff _ htallied').trans (allBalanced_run_iff order g call hbalanced)
      have hhead : call.run order g ∈ states (call.run order g) calls := by
        cases calls <;> exact List.mem_cons_self
      rw [states, List.forall_mem_cons, List.forall_mem_cons,
        and_iff_right ((allConvert_iff g htallied).mpr hbalanced)]
      constructor
      · intro hall
        have hbalanced' := (allConvert_iff _ htallied').mp (hall _ hhead)
        have hrest := (ih _ htallied' hbalanced').mp hall
        rw [hsame.config, hsame.relationships] at hrest
        exact ⟨hfirst.mp (hall _ hhead), hrest⟩
      · rintro ⟨hcall, hrest⟩
        have hbalanced' := (allConvert_iff _ htallied').mp (hfirst.mpr hcall)
        rw [← hsame.config, ← hsame.relationships] at hrest
        exact (ih _ htallied' hbalanced').mpr hrest

end Runs

/-- In a run of a new generator every state converts without loss if and only if the
investments of every call carry the minority interests. -/
theorem generator_run_converts_iff (config : EliminationConfig)
    (relationships : List IntercompanyRelationship) (calls : List (HashOrder × Call)) :
    (∀ state ∈ states (EliminationGenerator.new config relationships) calls, AllConvert state) ↔
      ∀ call ∈ calls, call.2.CarriesMinorities config relationships :=
  allConvert_states_iff (EliminationGenerator.new config relationships) calls
    (allEntries_new config relationships) (allEntries_new config relationships)

def partlyOwned : EliminationGenerator :=
  EliminationGenerator.new EliminationConfig.default
    [IntercompanyRelationship.new "1000" "1200" 80]

def eliminateInvestment : Call :=
  .generate_investment_equity_eliminations "202406" (Date.ofYmd 2024 6 30)
    (OrderedMap.ofList [("1000_1200", 800000)]) OrderedMap.empty

/-- The elimination of the investment credits 160,000 more than it debits and becomes no
journal entry. -/
theorem partly_owned_elimination_is_dropped :
    (∃ journal, (eliminateInvestment.run HashOrder.insertion partlyOwned).journals.find? "202406" =
        some journal ∧ journal.total_debits = 800000 ∧ journal.total_credits = 960000 ∧
        elimination_to_journal_entries journal.entries = []) ∧
      ¬ ∀ state ∈ states partlyOwned [(HashOrder.insertion, eliminateInvestment)],
        AllConvert state := by
  have hjournal : ∃ journal,
      (eliminateInvestment.run HashOrder.insertion partlyOwned).journals.find? "202406" =
        some journal ∧ journal.total_debits = 800000 ∧ journal.total_credits = 960000 ∧
        elimination_to_journal_entries journal.entries = [] ∧ journal.entries.length = 1 :=
    ⟨_, rfl, by decide_cbv, by decide_cbv, by decide_cbv, by decide_cbv⟩
  obtain ⟨journal, hfind, hdebits, hcredits, hnone, hlength⟩ := hjournal
  refine ⟨⟨journal, hfind, hdebits, hcredits, hnone⟩, ?_⟩
  intro h
  have hconverts := h _ (List.mem_cons_of_mem _ (List.mem_singleton_self _)) "202406" journal hfind
  have hkept := hconverts.kept.length_eq
  rw [hnone, hlength] at hkept
  cases hkept

end Datasynth.Generators.EliminationJournals
