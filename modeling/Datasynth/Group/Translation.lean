import Datasynth.Group.FxMaster
import Datasynth.Group.NciAggregation

/-!
Translation of an entity's trial balance into the presentation currency, with the
restatement of hyperinflationary entities, and that no rate is ever missing.
-/

namespace Datasynth.Group.Translation

open Datasynth.Core.JournalEntries
open Datasynth.Core.OwnershipChanges
open Datasynth.Core.TrialBalances
open Datasynth.Group.AccountClassification
open Datasynth.Group.Config
open Datasynth.Group.FxMaster
open Datasynth.Group.ManifestBuilder
open Datasynth.Group.NciAggregation
open Datasynth.Group.OwnershipExpansion
open Datasynth.Lib.ByteEncoding
open Datasynth.Lib.CivilCalendar
open Datasynth.Lib.DecimalText
open Datasynth.Lib.ExceptRuns
open Datasynth.Lib.HalfEvenRounding
open Datasynth.Lib.SortedEntries

def requires_restatement : HyperinflationStatus → Bool
  | .hyperinflationary => true
  | .notHyperinflationary => false

/-- A consumer price series: index levels by date of observation, in any order. -/
structure GeneralPriceIndex where
  currency : String
  observations : List (Date × ℚ)

/-- The level of the latest observation on a date or before it. -/
def GeneralPriceIndex.lookup (series : GeneralPriceIndex) (date : Date) : Option ℚ :=
  (((series.observations.mergeSort fun a b => decide (a.1 ≤ b.1)).reverse.find? fun e =>
    decide (e.1 ≤ date))).map Prod.snd

/-- The price indices of a period; they are positive. -/
structure IndexedRestatement where
  opening_index : ℚ
  closing_index : ℚ
  average_index : ℚ
  opening_pos : 0 < opening_index
  closing_pos : 0 < closing_index
  average_pos : 0 < average_index

namespace IndexedRestatement

def new (opening_index closing_index average_index : ℚ) : Except String IndexedRestatement :=
  if hopening : 0 < opening_index then
    if hclosing : 0 < closing_index then
      if haverage : 0 < average_index then
        .ok ⟨opening_index, closing_index, average_index, hopening, hclosing, haverage⟩
      else
        .error <| "IndexedRestatement::new: average_index must be > 0, got " ++
          decimalText average_index
    else
      .error <| "IndexedRestatement::new: closing_index must be > 0, got " ++
        decimalText closing_index
  else
    .error <| "IndexedRestatement::new: opening_index must be > 0, got " ++
      decimalText opening_index

def non_monetary_factor (r : IndexedRestatement) : ℚ := r.closing_index / r.opening_index

def pl_factor (r : IndexedRestatement) : ℚ := r.closing_index / r.average_index

def factor_for (r : IndexedRestatement) : TranslationAccountType → ℚ
  | .bsMonetary => 1
  | .bsNonMonetary | .equity => r.non_monetary_factor
  | .plRevenue | .plExpense | .plOci => r.pl_factor

/-- The indices of a period from a series; without an observation in the period the
average is the midpoint. -/
def from_cpi_series (series : GeneralPriceIndex) (period_start period_end : Date) :
    Option IndexedRestatement := do
  let opening_index ← series.lookup period_start
  let closing_index ← series.lookup period_end
  let in_period := (series.observations.filter fun e =>
    decide (period_start ≤ e.1) && decide (e.1 ≤ period_end)).map Prod.snd
  let average_index :=
    if in_period = [] then (opening_index + closing_index) / 2
    else in_period.sum / in_period.length
  (IndexedRestatement.new opening_index closing_index average_index).toOption

end IndexedRestatement

inductive RestatementPath where
  | standard
  | closingRate
  | indexed (restatement : IndexedRestatement)

def select_restatement_path (hyperinflation : HyperinflationStatus) (functional_currency : String)
    (cpi_series_by_currency : Option (OrderedMap String GeneralPriceIndex))
    (period_start period_end : Date) : RestatementPath :=
  if requires_restatement hyperinflation then
    match cpi_series_by_currency.bind fun map => map.find? functional_currency with
    | none => .closingRate
    | some series =>
        match IndexedRestatement.from_cpi_series series period_start period_end with
        | some restatement => .indexed restatement
        | none => .closingRate
  else .standard

inductive RateBasis where
  | closing
  | historical
  | average
deriving DecidableEq, Repr

def RateBasis.debugName : RateBasis → String
  | closing => "Closing"
  | historical => "Historical"
  | average => "Average"

def rate_basis_for : TranslationAccountType → RateBasis
  | .bsMonetary => .closing
  | .bsNonMonetary | .equity => .historical
  | .plRevenue | .plExpense | .plOci => .average

/-- A translated line, with what the profit attribution does not read. -/
structure TranslatedLine extends NciAggregation.TranslatedLine where
  account_code : String
  local_amount : ℚ
  fx_rate : ℚ
  rate_basis : RateBasis
deriving DecidableEq

structure TranslatedTb where
  entity_code : String
  functional_currency : String
  presentation_currency : String
  as_of_date : Date
  lines : List TranslatedLine
  total_translated_debits : ℚ
  total_translated_credits : ℚ
  cta : ℚ
deriving DecidableEq

/-- The amount and the side of a line; a line without a balance takes the side of its
account type. -/
def direction_and_amount (tbl : TrialBalanceLine) : ℚ × DrCr :=
  if 0 < tbl.debit_balance then (tbl.debit_balance, .debit)
  else if 0 < tbl.credit_balance then (tbl.credit_balance, .credit)
  else
    match tbl.account_type with
    | .liability | .equity | .revenue | .contraAsset => (0, .credit)
    | _ => (0, .debit)

def lookup_rate (master : FxRateMaster) (pair_key : String) (basis : RateBasis)
    (period_end : Date) : GroupResult ℚ :=
  let rate :=
    match basis with
    | .closing => master.closing_by_pair.find? pair_key
    | .historical | .average => master.average_by_pair.find? pair_key
  match rate with
  | some rate => .ok rate
  | none => .error <| .aggregate <| s!"translate_entity_tb: missing FX rate {pair_key} at " ++
      dateText period_end ++ " (basis=" ++ basis.debugName ++ ")"

section Translate

variable (entity_functional_ccy : String) (fx_rate_master : FxRateMaster) (period_end : Date)
  (presentation_currency : String) (hyperinflation : HyperinflationStatus)

/-- The rate of a line: one where nothing is translated, else the one looked up. -/
def lineRate (rate_basis : RateBasis) : GroupResult ℚ :=
  if entity_functional_ccy = presentation_currency then .ok 1
  else
    lookup_rate fx_rate_master (pairKey entity_functional_ccy presentation_currency) rate_basis
      period_end

def translateLine (restatement : Option IndexedRestatement) (tbl : TrialBalanceLine) :
    GroupResult TranslatedLine := do
  let account_type := classify_account tbl.account_code
  let rate_basis :=
    if requires_restatement hyperinflation then .closing else rate_basis_for account_type
  let (raw_local_amount, local_dr_cr) := direction_and_amount tbl
  let restatement_factor := (restatement.map fun r => r.factor_for account_type).getD 1
  let local_amount := roundDp 2 (raw_local_amount * restatement_factor)
  let fx_rate ← lineRate entity_functional_ccy fx_rate_master period_end presentation_currency
    rate_basis
  return {
    local_dr_cr
    translated_amount := roundDp 2 (local_amount * fx_rate)
    account_type
    account_code := tbl.account_code
    local_amount
    fx_rate
    rate_basis }

def totalOf (side : DrCr) (lines : List TranslatedLine) : ℚ :=
  ((lines.filter (·.local_dr_cr = side)).map (·.translated_amount)).sum

def translate_entity_tb_with_indexed_restatement (entity_tb : TrialBalance)
    (restatement : Option IndexedRestatement) : GroupResult TranslatedTb := do
  let lines ← traverseRun
    (translateLine entity_functional_ccy fx_rate_master period_end presentation_currency
      hyperinflation restatement) entity_tb.lines
  return {
    entity_code := entity_tb.company_code
    functional_currency := entity_functional_ccy
    presentation_currency
    as_of_date := entity_tb.as_of_date
    lines
    total_translated_debits := totalOf .debit lines
    total_translated_credits := totalOf .credit lines
    cta := totalOf .debit lines - totalOf .credit lines }

def translate_entity_tb_with_hyperinflation (entity_tb : TrialBalance) : GroupResult TranslatedTb :=
  translate_entity_tb_with_indexed_restatement entity_functional_ccy fx_rate_master period_end
    presentation_currency hyperinflation entity_tb none

end Translate

/-- The driver's translation of one entity; the manifest's rate master is an argument
of its own. -/
def translate_one_entity (tb : TrialBalance) (entity : ManifestEntity) (manifest : GroupManifest)
    (fx_rate_master : FxRateMaster) (cpi : Option (OrderedMap String GeneralPriceIndex)) :
    GroupResult TranslatedTb :=
  match select_restatement_path entity.hyperinflation_status entity.functional_currency cpi
      manifest.period.start manifest.period.end with
  | .indexed restatement =>
      translate_entity_tb_with_indexed_restatement entity.functional_currency fx_rate_master
        manifest.period.end manifest.presentation_currency entity.hyperinflation_status tb
        (some restatement)
  | .standard | .closingRate =>
      translate_entity_tb_with_hyperinflation entity.functional_currency fx_rate_master
        manifest.period.end manifest.presentation_currency entity.hyperinflation_status tb

section Coverage

variable {cfg : FxConfig} {period_start period_end : Date} {presentation_currency : String}
  {expanded_entities : List ExpandedEntity} {master : FxRateMaster}

theorem lookup_rate_of_covered {pair : String} {table : RateTable} {closing average : ℚ}
    (h : Covered cfg period_start period_end master pair table closing average) (basis : RateBasis)
    (date : Date) :
    lookup_rate master pair basis date = .ok (if basis = .closing then closing else average) := by
  cases basis with
  | closing => rw [lookup_rate, h.closing_eq, if_pos rfl]
  | historical => rw [lookup_rate, h.average_eq, if_neg (by decide)]
  | average => rw [lookup_rate, h.average_eq, if_neg (by decide)]

theorem exists_lineRate
    (h : build_fx_master cfg period_start period_end presentation_currency expanded_entities =
      .ok master)
    {entity : ExpandedEntity} (hentity : entity ∈ expanded_entities) (date : Date)
    (basis : RateBasis) :
    ∃ rate, lineRate entity.functional_currency master date presentation_currency basis =
      .ok rate := by
  rw [lineRate]
  by_cases heq : entity.functional_currency = presentation_currency
  · exact ⟨1, if_pos heq⟩
  · obtain ⟨table, closing, average, hcovered⟩ :=
      covered_of_build_fx_master cfg period_start period_end h hentity heq
    rw [if_neg heq]
    exact ⟨_, lookup_rate_of_covered hcovered basis date⟩

/-- A translation fails only where a rate is missing. -/
theorem exists_translate_of_rates {functional_currency : String} {date : Date}
    {hyperinflation : HyperinflationStatus}
    (hrates : ∀ basis, ∃ rate,
      lineRate functional_currency master date presentation_currency basis = .ok rate)
    (tb : TrialBalance) (restatement : Option IndexedRestatement) :
    ∃ translated, translate_entity_tb_with_indexed_restatement functional_currency master date
      presentation_currency hyperinflation tb restatement = .ok translated := by
  have hlines : ∀ tbl ∈ tb.lines, ∃ line, translateLine functional_currency master date
      presentation_currency hyperinflation restatement tbl = .ok line := by
    intro tbl _
    obtain ⟨rate, hrate⟩ := hrates (if requires_restatement hyperinflation then .closing
      else rate_basis_for (classify_account tbl.account_code))
    exact ⟨_, bind_eq_ok_iff.mpr ⟨rate, hrate, rfl⟩⟩
  obtain ⟨lines, htraverse⟩ := exists_traverseRun_iff.mpr hlines
  exact ⟨_, bind_eq_ok_iff.mpr ⟨lines, htraverse, rfl⟩⟩

theorem exists_translate_one_entity {entity : ManifestEntity} {manifest : GroupManifest}
    (hrates : ∀ basis, ∃ rate, lineRate entity.functional_currency master manifest.period.end
      manifest.presentation_currency basis = .ok rate)
    (tb : TrialBalance) (cpi : Option (OrderedMap String GeneralPriceIndex)) :
    ∃ translated, translate_one_entity tb entity manifest master cpi = .ok translated := by
  rw [translate_one_entity]
  split
  · exact exists_translate_of_rates hrates tb _
  · exact exists_translate_of_rates hrates tb none
  · exact exists_translate_of_rates hrates tb none

/-- The master holds the rates of every entity that is translated, and so no translation
of an entity's trial balance fails. -/
theorem build_fx_master_supports_translation
    (h : build_fx_master cfg period_start period_end presentation_currency expanded_entities =
      .ok master)
    (entity : ExpandedEntity) (hentity : entity ∈ expanded_entities) :
    (entity.functional_currency ≠ presentation_currency →
      ∃ table closing average, Covered cfg period_start period_end master
        (pairKey entity.functional_currency presentation_currency) table closing average) ∧
    (∀ date hyperinflation tb restatement, ∃ translated,
      translate_entity_tb_with_indexed_restatement entity.functional_currency master date
        presentation_currency hyperinflation tb restatement = .ok translated) ∧
    ∀ (manifestEntity : ManifestEntity) (manifest : GroupManifest),
      manifestEntity.functional_currency = entity.functional_currency →
        manifest.presentation_currency = presentation_currency →
          ∀ tb cpi, ∃ translated,
            translate_one_entity tb manifestEntity manifest master cpi = .ok translated := by
  refine ⟨covered_of_build_fx_master cfg period_start period_end h hentity, ?_, ?_⟩
  · intro date hyperinflation tb restatement
    exact exists_translate_of_rates (exists_lineRate h hentity date) tb restatement
  · intro manifestEntity manifest hcurrency hpresentation tb cpi
    apply exists_translate_one_entity
    rw [hcurrency, hpresentation]
    exact exists_lineRate h hentity manifest.period.end

end Coverage

def dollarRates : RateTable :=
  OrderedMap.ofList [(Date.ofYmd 2024 3 31, 1), (Date.ofYmd 2024 9 30, 5 / 4),
    (Date.ofYmd 2025 3 31, 2)]

def invertedConfig : FxConfig :=
  ⟨"EUR", .inline, OrderedMap.ofList [("EUR/USD", dollarRates)], ⟨.closing, .average, .historical⟩⟩

def dollarEntity : ExpandedEntity :=
  { entityIn "S" "significant" with functional_currency := "USD" }

/-- The dollars of a subsidiary are translated at the inverses of the rates of 2024. -/
theorem inverted_quotes_translate :
    ∃ master, build_fx_master invertedConfig year2024.start year2024.end "EUR" [dollarEntity] =
        .ok master ∧
      ∃ table closing average, Covered invertedConfig year2024.start year2024.end master "USD/EUR"
        table closing average := by
  obtain ⟨master, hmaster⟩ := exists_ok_of_isOk (x := build_fx_master invertedConfig year2024.start
    year2024.end "EUR" [dollarEntity]) (by decide)
  exact ⟨master, hmaster, (build_fx_master_supports_translation hmaster dollarEntity
    (List.mem_singleton_self _)).1 (by decide)⟩

end Datasynth.Group.Translation
