import Datasynth.Group.NciAggregation
import Datasynth.Group.EquityMethod
import Datasynth.Lib.ListRearrangement

/-!
The aggregate driver's equity-method phase: the figures of every investee come from
its deferred trial balance, and the balances it opens with from the records that the
previous period wrote.
-/

namespace Datasynth.Group.EquityMethodAggregation

open Datasynth.Core.TrialBalances
open Datasynth.Group.AccountClassification
open Datasynth.Group.Config
open Datasynth.Group.EquityMethod
open Datasynth.Group.ManifestBuilder
open Datasynth.Lib.CarryForward
open Datasynth.Lib.CivilCalendar
open Datasynth.Lib.ExceptRuns
open Datasynth.Lib.ListRearrangement
open Datasynth.Lib.SortedEntries

def netIncomeContribution (line : TrialBalanceLine) : ℚ :=
  match classify_account line.account_code with
  | .plRevenue => line.credit_balance - line.debit_balance
  | .plExpense => -(line.debit_balance - line.credit_balance)
  | _ => 0

def net_income_from_tb (tb : TrialBalance) : ℚ := (tb.lines.map netIncomeContribution).sum

def DIVIDENDS_PAID : String := "3700"

def dividends_from_tb (tb : TrialBalance) : ℚ :=
  ((tb.lines.filter (·.account_code = DIVIDENDS_PAID)).map fun line =>
    line.debit_balance - line.credit_balance).sum

structure OpeningMaps where
  carrying_values : OrderedMap String ℚ
  suppressed_losses : OrderedMap String ℚ

def OpeningMaps.empty : OpeningMaps := ⟨OrderedMap.empty, OrderedMap.empty⟩

def OpeningMaps.openingOf (maps : OpeningMaps) (code : String) : Opening :=
  ⟨(maps.carrying_values.find? code).getD 0, (maps.suppressed_losses.find? code).getD 0⟩

/-- Read one field of the previous records, each investee once. -/
def ingestField (reader path : String) (field : EquityMethodInvestment → ℚ)
    (map : OrderedMap String ℚ) (record : EquityMethodInvestment) :
    GroupResult (OrderedMap String ℚ) :=
  if (map.find? record.investee_code).isSome then
    .error <| .aggregate <|
      s!"{reader}: duplicate investee `{record.investee_code}` in opening file {path} — " ++
        "writer regression?"
  else .ok (map.insert record.investee_code (field record))

def ingest_opening_equity_method_carrying_values (path : String)
    (records : List EquityMethodInvestment) : GroupResult (OrderedMap String ℚ) :=
  foldRun (ingestField "ingest_opening_equity_method_carrying_values" path
    (·.closing_carrying_value)) OrderedMap.empty records

def ingest_opening_suppressed_losses (path : String) (records : List EquityMethodInvestment) :
    GroupResult (OrderedMap String ℚ) :=
  foldRun (ingestField "ingest_opening_suppressed_losses" path (·.closing_suppressed_loss))
    OrderedMap.empty records

/-- One aggregate run: its manifest, the trial balances held back, and where the
previous period's records are. -/
structure AggregatePeriod where
  manifest : GroupManifest
  deferred_tbs : List (String × TrialBalance)
  prior_path : String

def AggregatePeriod.deferred_lookup (p : AggregatePeriod) : OrderedMap String TrialBalance :=
  OrderedMap.ofList p.deferred_tbs

def AggregatePeriod.figures (p : AggregatePeriod) (code : String) : ℚ × ℚ :=
  match p.deferred_lookup.find? code with
  | some tb => (net_income_from_tb tb, dividends_from_tb tb)
  | none => (0, 0)

def AggregatePeriod.investeePeriod (p : AggregatePeriod) (entity : ManifestEntity)
    (parent_code : String) : InvesteePeriod where
  investee := entity
  investor_entity_code := parent_code
  investee_net_income := (p.figures entity.code).1
  investee_dividends_paid := (p.figures entity.code).2
  impairment := 0
  period_end := p.manifest.period.end
  currency := p.manifest.presentation_currency

/-- The investees of a manifest with their parents; one without a parent is skipped. -/
def investees (manifest : GroupManifest) : List (ManifestEntity × String) :=
  (manifest.ownership_graph.entities.filter (·.consolidation_method = .equityMethod)).filterMap
    fun entity => entity.parent_code.map fun parent_code => (entity, parent_code)

def build_equity_method_investments (p : AggregatePeriod) (maps : OpeningMaps) :
    GroupResult (List EquityMethodInvestment) :=
  traverseRun (fun investee => rollPeriod (maps.openingOf investee.1.code)
    (p.investeePeriod investee.1 investee.2)) (investees p.manifest)

/-- The phase of one period, opening with the records of the previous one. -/
def equityMethodPhase (prior : Option (List EquityMethodInvestment)) (p : AggregatePeriod) :
    GroupResult (List EquityMethodInvestment) :=
  match prior with
  | none => build_equity_method_investments p OpeningMaps.empty
  | some records =>
      (ingest_opening_equity_method_carrying_values p.prior_path records).bind
        fun carrying_values =>
          (ingest_opening_suppressed_losses p.prior_path records).bind fun suppressed_losses =>
            build_equity_method_investments p ⟨carrying_values, suppressed_losses⟩

section Ingestion

variable {records : List EquityMethodInvestment}

end Ingestion

/-- A period whose investees are distinct, valid and pay non-negative dividends. -/
structure AggregatePeriod.Regular (p : AggregatePeriod) : Prop where
  codes_nodup : (p.manifest.ownership_graph.entities.map (·.code)).Nodup
  investees_regular : ∀ investee ∈ investees p.manifest,
    (p.investeePeriod investee.1 investee.2).Regular

section Chain

variable {prior : Option (List EquityMethodInvestment)} {p : AggregatePeriod}
  {records : List EquityMethodInvestment}

end Chain

def investeeOci (tb : TrialBalance) : ℚ :=
  ((tb.lines.filter (classify_account ·.account_code = .plOci)).map fun line =>
    line.credit_balance - line.debit_balance).sum

/-- A year of the associate whose only income is an OCI gain of 100. -/
def ociGainTb : TrialBalance where
  company_code := "S"
  as_of_date := Date.ofYmd 2024 12 31
  fiscal_year := 2024
  fiscal_period := 12
  currency := "EUR"
  lines := [⟨"1000", .asset, 100, 0⟩, ⟨"8600", .equity, 0, 100⟩]
  total_debits := 100
  total_credits := 100

def ociGainYear : AggregatePeriod where
  manifest := { GroupManifest.bare year2024 with
    ownership_graph := ⟨"P", [sampleAssociate]⟩ }
  deferred_tbs := [("S", ociGainTb)]
  prior_path := ""

/-- The share of an OCI gain does not reach the investment. -/
theorem oci_gain_is_not_taken_up :
    ∃ record, equityMethodPhase none ociGainYear = .ok [record] ∧
      ¬ |(carriedForward record).balance -
          (record.ownership_percent * (net_income_from_tb ociGainTb + investeeOci ociGainTb) -
            record.ownership_percent * dividends_from_tb ociGainTb)| ≤ 1 / 100 := by
  refine ⟨rollInvestment ⟨sampleAssociate, "P", 0, 0, 0, 0, 0, Date.ofYmd 2024 12 31, "EUR"⟩
    (3 / 10), ?_, ?_⟩ <;> decide +kernel

end Datasynth.Group.EquityMethodAggregation
