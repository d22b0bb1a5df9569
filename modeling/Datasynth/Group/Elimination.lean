import Mathlib.Data.List.Permutation
import Mathlib.Tactic.Ring
import Datasynth.Core.EliminationEntries
import Datasynth.Group.IcMatching

/-!
Elimination entries of matched intercompany pairs: every pair gets a balance
entry over the two clearing accounts and one entry for its income and expense.
-/

namespace Datasynth.Group.Elimination

open Datasynth.Core.EliminationEntries
open Datasynth.Core.JournalEntries
open Datasynth.Group.Config
open Datasynth.Group.IcInjection
open Datasynth.Group.IcMatching
open Datasynth.Group.IcPlanning
open Datasynth.Group.ManifestBuilder
open Datasynth.Lib.ByteEncoding
open Datasynth.Lib.CivilCalendar
open Datasynth.Lib.DecimalText
open Datasynth.Lib.ExceptRuns
open Datasynth.Lib.SignedPostings
open Datasynth.Lib.SortedEntries

def IC_AR_CLEARING : String := "1150"
def IC_AP_CLEARING : String := "2050"
def IC_REVENUE : String := "4500"
def COGS_ACCOUNT : String := "5000"
def IC_EXPENSE_ACCOUNT : String := "6800"
def IC_INTEREST_INCOME : String := "7000"
def INTEREST_EXPENSE : String := "7100"
def DIVIDEND_INCOME : String := "4900"
def RETAINED_EARNINGS : String := "3300"

/-- What every builder of a pair's entries is handed. -/
structure EntryCtx where
  pair : IcMatchedPair
  amount : ℚ
  fiscal_period : String
  entry_date : Date
  consolidation_entity : String
  currency : String
  pair_short : String

def icReference (pair : IcMatchedPair) : String := "ic_pair_id=" ++ pair.pair_id.toHex

def build_balance_entry (ctx : EntryCtx) : EliminationEntry :=
  let entry := EliminationEntry.create_ic_balance_elimination s!"ELIM-BAL-{ctx.pair_short}"
    ctx.consolidation_entity ctx.fiscal_period ctx.entry_date ctx.pair.seller_entity
    ctx.pair.buyer_entity IC_AR_CLEARING IC_AP_CLEARING ctx.amount ctx.currency
  { entry with ic_references := entry.ic_references ++ [icReference ctx.pair] }

def build_revenue_expense_entry (tx : IcTransactionType) (ctx : EntryCtx) : EliminationEntry :=
  let expense_account :=
    match tx with
    | .goodsSale => COGS_ACCOUNT
    | _ => IC_EXPENSE_ACCOUNT
  let entry := EliminationEntry.create_ic_revenue_expense_elimination
    s!"ELIM-REV-{ctx.pair_short}" ctx.consolidation_entity ctx.fiscal_period ctx.entry_date
    ctx.pair.seller_entity ctx.pair.buyer_entity IC_REVENUE expense_account ctx.amount ctx.currency
  { entry with ic_references := entry.ic_references ++ [icReference ctx.pair] }

def build_interest_entry (ctx : EntryCtx) : EliminationEntry :=
  let pair := ctx.pair
  let entry := EliminationEntry.new s!"ELIM-INT-{ctx.pair_short}" .icInterest
    ctx.consolidation_entity ctx.fiscal_period ctx.entry_date ctx.currency
  let entry := { entry with
    related_companies := [pair.seller_entity, pair.buyer_entity]
    description := s!"Eliminate IC interest between {pair.seller_entity} and {pair.buyer_entity}"
    ic_references := [icReference pair] }
  let entry := entry.add_line
    { line_number := 1, company := pair.seller_entity, account := IC_INTEREST_INCOME
      is_debit := true, amount := ctx.amount, currency := ctx.currency
      description := s!"Eliminate IC interest income from {pair.buyer_entity}" }
  entry.add_line
    { line_number := 2, company := pair.buyer_entity, account := INTEREST_EXPENSE
      is_debit := false, amount := ctx.amount, currency := ctx.currency
      description := s!"Eliminate IC interest expense to {pair.seller_entity}" }

def build_dividend_entry (ctx : EntryCtx) : EliminationEntry :=
  let pair := ctx.pair
  let entry := EliminationEntry.new s!"ELIM-DIV-{ctx.pair_short}" .icDividends
    ctx.consolidation_entity ctx.fiscal_period ctx.entry_date ctx.currency
  let entry := { entry with
    related_companies := [pair.seller_entity, pair.buyer_entity]
    description := s!"Eliminate IC dividend from {pair.buyer_entity} to {pair.seller_entity}"
    ic_references := [icReference pair] }
  let entry := entry.add_line
    { line_number := 1, company := pair.seller_entity, account := DIVIDEND_INCOME
      is_debit := true, amount := ctx.amount, currency := ctx.currency
      description := s!"Eliminate dividend income from {pair.buyer_entity}" }
  entry.add_line
    { line_number := 2, company := pair.buyer_entity, account := RETAINED_EARNINGS
      is_debit := false, amount := ctx.amount, currency := ctx.currency
      description := "Restore retained earnings" }

/-- The first eight hexadecimal digits of a pair identifier. -/
def short_pair_id (pair_id : IcPairId) : String := String.ofList (pair_id.toHex.toList.take 8)

def build_entries_for_pair (pair : IcMatchedPair) (plan : IcPairPlan) (amount : ℚ)
    (fiscal_period : String) (manifest : GroupManifest) : GroupResult (List EliminationEntry) :=
  let ctx : EntryCtx :=
    { pair, amount, fiscal_period
      entry_date := pair.seller_je.header.posting_date
      consolidation_entity := manifest.group_id
      currency := manifest.presentation_currency
      pair_short := short_pair_id pair.pair_id }
  match plan.transaction_type with
  | .goodsSale | .serviceProvided | .managementFee | .royalty | .costSharing
  | .expenseRecharge =>
      .ok [build_balance_entry ctx, build_revenue_expense_entry plan.transaction_type ctx]
  | .loanInterest => .ok [build_balance_entry ctx, build_interest_entry ctx]
  | .dividend => .ok [build_balance_entry ctx, build_dividend_entry ctx]

/-- The amount to eliminate: the seller entry's first debit line, else its total
credit, else the planned amount. -/
def elimination_amount (seller_je : JournalEntry) (plan : IcPairPlan) : ℚ :=
  match seller_je.lines.find? (·.is_debit) with
  | some line => line.debit_amount
  | none => if 0 < seller_je.total_credit then seller_je.total_credit else plan.amount

/-- `YYYYMM` of a posting date. -/
def format_fiscal_period (d : Date) : String := padded 4 d.year.toNat ++ padded 2 d.month

def elimination_type_order : EliminationType → ℕ
  | .icBalances => 0
  | .icRevenueExpense => 1
  | .icInterest => 2
  | .icDividends => 3
  | .icLoans => 4
  | .icProfitInInventory => 5
  | .icProfitInFixedAssets => 6
  | .investmentEquity => 7
  | .minorityInterest => 8
  | .goodwill => 9
  | .currencyTranslation => 10

/-- The check every entry passes before it is kept, to the cent. -/
def verify_balanced (pair : IcMatchedPair) (entry : EliminationEntry) : GroupResult Unit :=
  let diff := |entry.total_debit - entry.total_credit|
  if 1 / 100 < diff then
    .error <| .aggregate <|
      "generate_eliminations: pair " ++ pair.pair_id.toHex ++ " produced unbalanced " ++
        entry.elimination_type.debugName ++ " entry (total_debit=" ++
        decimalText entry.total_debit ++ ", total_credit=" ++ decimalText entry.total_credit ++
        ", diff=" ++ decimalText diff ++ ")"
  else .ok ()

section Generation

variable (blake3 : List Byte → Digest) (manifest : GroupManifest)

def lookup_seller_plan (entity_code : String) (pair_id : IcPairId) : GroupResult IcPairPlan :=
  match (plansByPair blake3 manifest entity_code).find? pair_id with
  | some plan => .ok plan
  | none => .error <| .aggregate <|
      s!"generate_eliminations: entity `{entity_code}` is the seller of pair " ++
        pair_id.toHex ++ " but the manifest derives no plan with that pair_id for that entity — " ++
        "stale shard output or manifest mismatch"

def entriesOfPair (pair : IcMatchedPair) : GroupResult (List EliminationEntry) :=
  (lookup_seller_plan blake3 manifest pair.seller_entity pair.pair_id).bind fun plan =>
    let amount := elimination_amount pair.seller_je plan
    let fiscal_period := format_fiscal_period pair.seller_je.header.posting_date
    (build_entries_for_pair pair plan amount fiscal_period manifest).bind fun entries =>
      (traverseRun (verify_balanced pair) entries).bind fun _ => .ok entries

structure EliminationResult where
  entries : List EliminationEntry
  total_debit : ℚ
  total_credit : ℚ

/-- The order pairs are visited in: seller, buyer, then pair identifier. -/
def pairLe (a b : IcMatchedPair) : Prop :=
  a.seller_entity < b.seller_entity ∨ a.seller_entity = b.seller_entity ∧
    (a.buyer_entity < b.buyer_entity ∨ a.buyer_entity = b.buyer_entity ∧ a.pair_id ≤ b.pair_id)

instance : DecidableRel pairLe := fun a b => by unfold pairLe; infer_instance

def entryLe (a b : EliminationEntry) : Prop :=
  elimination_type_order a.elimination_type < elimination_type_order b.elimination_type ∨
    elimination_type_order a.elimination_type = elimination_type_order b.elimination_type ∧
      a.entry_id ≤ b.entry_id

instance : DecidableRel entryLe := fun a b => by unfold entryLe; infer_instance

def generate_eliminations (matched : List IcMatchedPair) : GroupResult EliminationResult :=
  (traverseRun (entriesOfPair blake3 manifest) (matched.insertionSort pairLe)).bind fun built =>
    let entries := built.flatten.insertionSort entryLe
    .ok
      { entries
        total_debit := (entries.map (·.total_debit)).sum
        total_credit := (entries.map (·.total_credit)).sum }

end Generation

/-! What the entries of a pair post. -/

/-- The accounts the second entry of a pair debits and credits. -/
def trackAccounts : IcTransactionType → String × String
  | .goodsSale => (IC_REVENUE, COGS_ACCOUNT)
  | .serviceProvided | .managementFee | .royalty | .costSharing
  | .expenseRecharge => (IC_REVENUE, IC_EXPENSE_ACCOUNT)
  | .loanInterest => (IC_INTEREST_INCOME, INTEREST_EXPENSE)
  | .dividend => (DIVIDEND_INCOME, RETAINED_EARNINGS)

theorem build_entries_for_pair_spec (pair : IcMatchedPair) (plan : IcPairPlan) (amount : ℚ)
    (fiscal_period : String) (manifest : GroupManifest) :
    ∃ entries,
      build_entries_for_pair pair plan amount fiscal_period manifest = .ok entries ∧
      (∀ entry ∈ entries, entry.total_debit = amount ∧ entry.total_credit = amount) ∧
      entries.flatMap (·.postings) =
        [(IC_AP_CLEARING, amount), (IC_AR_CLEARING, -amount),
          ((trackAccounts plan.transaction_type).1, amount),
          ((trackAccounts plan.transaction_type).2, -amount)] := by
  cases htx : plan.transaction_type <;>
    refine ⟨_, by rw [build_entries_for_pair, htx], ?_, ?_⟩ <;>
    simp [build_balance_entry, build_revenue_expense_entry, build_interest_entry,
      build_dividend_entry, EliminationEntry.create_ic_balance_elimination,
      EliminationEntry.create_ic_revenue_expense_elimination, EliminationEntry.new,
      EliminationEntry.add_line, EliminationEntry.postings, trackAccounts]

theorem verify_balanced_of_build {pair : IcMatchedPair} {plan : IcPairPlan} {amount : ℚ}
    {fiscal_period : String} {manifest : GroupManifest} {entries : List EliminationEntry}
    (h : build_entries_for_pair pair plan amount fiscal_period manifest = .ok entries) :
    ∀ entry ∈ entries, verify_balanced pair entry = .ok () := by
  obtain ⟨entries', hbuild, htotals, -⟩ :=
    build_entries_for_pair_spec pair plan amount fiscal_period manifest
  cases hbuild.symm.trans h
  intro entry hentry
  obtain ⟨hdebit, hcredit⟩ := htotals entry hentry
  rw [verify_balanced, hdebit, hcredit, sub_self, abs_zero]
  exact if_neg (by norm_num)

/-- An injected seller entry is eliminated at its planned amount, whatever its sign. -/
theorem elimination_amount_injected (plan : IcPairPlan) (seller : String) :
    elimination_amount (build_je_for_plan plan ⟨seller⟩) plan = plan.amount := by
  have hcredit := build_je_for_plan_total_credit plan ⟨seller⟩
  by_cases hamount : 0 < plan.amount
  · simp [elimination_amount, build_je_for_plan_lines, JournalEntryLine.debit,
      JournalEntryLine.is_debit, hamount]
  · simp [elimination_amount, build_je_for_plan_lines, JournalEntryLine.debit,
      JournalEntryLine.credit, JournalEntryLine.is_debit, hamount, hcredit]

/-- The matched pair of a seller and a buyer side as their shards inject them. -/
def injectedPair (seller_plan buyer_plan : IcPairPlan) (seller buyer : String) : IcMatchedPair where
  pair_id := seller_plan.pair_id
  seller_entity := seller
  buyer_entity := buyer
  seller_je := build_je_for_plan seller_plan ⟨seller⟩
  buyer_je := build_je_for_plan buyer_plan ⟨buyer⟩

/-- Everything posted for a pair: the two sides and the eliminations. -/
def pairPostings (pair : IcMatchedPair) (entries : List EliminationEntry) : List (String × ℚ) :=
  pair.seller_je.postings ++ pair.buyer_je.postings ++ entries.flatMap (·.postings)

/-- Intercompany receivable, payable, revenue or income, and expense or cost. -/
def intercompanyAccounts : List String :=
  [IC_AR_CLEARING, IC_AP_CLEARING, IC_REVENUE, DIVIDEND_INCOME, IC_INTEREST_INCOME,
    COGS_ACCOUNT, IC_EXPENSE_ACCOUNT, INTEREST_EXPENSE]

/-- What a pair posts, in multiples of its amount. -/
def pairSigns (t : IcTransactionType) : List (String × ℤ) :=
  [((seller_accounts t).1, 1), ((seller_accounts t).2, -1),
    ((buyer_accounts t).1, 1), ((buyer_accounts t).2, -1),
    (IC_AP_CLEARING, 1), (IC_AR_CLEARING, -1),
    ((trackAccounts t).1, 1), ((trackAccounts t).2, -1)]

/-- The three account tables cancel on every intercompany account, except that a
dividend's balance entry credits a receivable its seller never debited. -/
theorem netOn_pairSigns (t : IcTransactionType) :
    (∀ account ∈ intercompanyAccounts, netOn account (pairSigns t) = 0) ↔ t ≠ .dividend := by
  cases t <;> decide

theorem netOn_receivable_dividend : netOn IC_AR_CLEARING (pairSigns .dividend) = -1 := by decide

theorem pairPostings_injected {seller_plan buyer_plan : IcPairPlan} {seller buyer : String}
    {entries : List EliminationEntry} (hseller : seller_plan.role = .seller)
    (hbuyer : buyer_plan.role = .buyer)
    (htype : buyer_plan.transaction_type = seller_plan.transaction_type)
    (hamount : buyer_plan.amount = seller_plan.amount)
    (hentries : entries.flatMap (·.postings) =
      [(IC_AP_CLEARING, seller_plan.amount), (IC_AR_CLEARING, -seller_plan.amount),
        ((trackAccounts seller_plan.transaction_type).1, seller_plan.amount),
        ((trackAccounts seller_plan.transaction_type).2, -seller_plan.amount)]) :
    pairPostings (injectedPair seller_plan buyer_plan seller buyer) entries =
      (pairSigns seller_plan.transaction_type).map fun p =>
        (p.1, zmultiplesHom ℚ seller_plan.amount p.2) := by
  simp [pairPostings, injectedPair, build_je_for_plan_postings, hseller, hbuyer, htype, hamount,
    hentries, sideAccounts, pairSigns]

/-- The two injected sides and the entries built for them leave nothing on any
intercompany account they touch. -/
def PairNetsToZero (manifest : GroupManifest) (seller_plan buyer_plan : IcPairPlan)
    (seller buyer fiscal_period : String) : Prop :=
  let pair := injectedPair seller_plan buyer_plan seller buyer
  ∃ entries,
    build_entries_for_pair pair seller_plan (elimination_amount pair.seller_je seller_plan)
        fiscal_period manifest = .ok entries ∧
      ∀ account ∈ intercompanyAccounts, account ∈ (pairPostings pair entries).map Prod.fst →
        netOn account (pairPostings pair entries) = 0

/-- A pair nets to zero unless it is a dividend of a non-zero amount. -/
theorem pair_nets_to_zero_iff (manifest : GroupManifest) (seller_plan buyer_plan : IcPairPlan)
    (seller buyer fiscal_period : String) (hseller : seller_plan.role = .seller)
    (hbuyer : buyer_plan.role = .buyer)
    (htype : buyer_plan.transaction_type = seller_plan.transaction_type)
    (hamount : buyer_plan.amount = seller_plan.amount) :
    PairNetsToZero manifest seller_plan buyer_plan seller buyer fiscal_period ↔
      seller_plan.transaction_type ≠ .dividend ∨ seller_plan.amount = 0 := by
  have helimination : elimination_amount
      (injectedPair seller_plan buyer_plan seller buyer).seller_je seller_plan =
        seller_plan.amount := elimination_amount_injected seller_plan seller
  simp only [PairNetsToZero, helimination]
  obtain ⟨entries, hbuild, -, hpostings⟩ := build_entries_for_pair_spec
    (injectedPair seller_plan buyer_plan seller buyer) seller_plan seller_plan.amount
    fiscal_period manifest
  have hpair : pairPostings (injectedPair seller_plan buyer_plan seller buyer) entries =
      (pairSigns seller_plan.transaction_type).map fun p =>
        (p.1, zmultiplesHom ℚ seller_plan.amount p.2) :=
    pairPostings_injected hseller hbuyer htype hamount hpostings
  constructor
  · rintro ⟨entries', hbuild', hnet⟩
    cases hbuild.symm.trans hbuild'
    by_contra hdividend
    rw [not_or, not_not] at hdividend
    obtain ⟨hdividend, hnonzero⟩ := hdividend
    rw [hpair, hdividend] at hnet
    have hreceivable := hnet IC_AR_CLEARING (by decide) (by simp [pairSigns])
    rw [netOn_map, netOn_receivable_dividend] at hreceivable
    exact hnonzero (by simpa using hreceivable)
  · intro hcondition
    refine ⟨entries, hbuild, ?_⟩
    intro account haccount _
    rw [hpair, netOn_map]
    rcases hcondition with htype' | hzero
    · rw [(netOn_pairSigns _).mpr htype' account haccount, map_zero]
    · simp [hzero]

def samplePlan (role : IcRole) (partner_entity : String) (t : IcTransactionType) : IcPairPlan where
  pair_id := .fromBytes (digestOfNat 0)
  ic_relationship_id := "ICR_0000000000000000"
  role := role
  partner_entity := partner_entity
  transaction_type := t
  amount := avg_amount t
  date := Date.ofYmd 2024 1 1
  index := 0

theorem loan_interest_nets_to_zero :
    PairNetsToZero (.bare year2024) (samplePlan .seller "B" .loanInterest)
      (samplePlan .buyer "S" .loanInterest) "S" "B" "202401" :=
  (pair_nets_to_zero_iff (.bare year2024) (samplePlan .seller "B" .loanInterest)
    (samplePlan .buyer "S" .loanInterest) "S" "B" "202401" rfl rfl rfl rfl).mpr
    (.inl (by decide))

/-- A dividend of 75,000 leaves 75,000 credited on the receivable account. -/
theorem dividend_leaves_receivable_credited :
    ¬ PairNetsToZero (.bare year2024) (samplePlan .seller "B" .dividend)
      (samplePlan .buyer "S" .dividend) "S" "B" "202401" := by
  rintro ⟨entries, hbuild, hnet⟩
  cases hbuild
  exact absurd (hnet IC_AR_CLEARING (by decide) (by decide)) (by decide_cbv)

end Datasynth.Group.Elimination
