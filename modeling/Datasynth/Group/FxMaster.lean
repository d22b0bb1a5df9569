import Mathlib.Algebra.Order.BigOperators.Group.List
import Mathlib.Algebra.Order.Field.Rat
import Mathlib.Data.Finset.Max
import Datasynth.Group.OwnershipExpansion
import Datasynth.Lib.AmountText
import Datasynth.Lib.WeightedMeans

/-!
The rate master of an engagement: the pairs the entities need are looked up in the
configured tables, in either direction, and closing and average rates are computed
from the rates of the period.
-/

namespace Datasynth.Group.FxMaster

open Datasynth.Group.Config
open Datasynth.Group.OwnershipExpansion
open Datasynth.Lib.CivilCalendar
open Datasynth.Lib.DecimalText
open Datasynth.Lib.ExceptRuns
open Datasynth.Lib.SortedEntries
open Datasynth.Lib.WeightedMeans

inductive FxRateSource where
  | inline
  | userSupplied
  | historicalSeries
deriving DecidableEq, Repr

inductive FxRateBasis where
  | closing
  | average
  | historical
deriving DecidableEq, Repr

structure FxPolicyConfig where
  balance_sheet : FxRateBasis
  income_statement : FxRateBasis
  equity : FxRateBasis
deriving DecidableEq

abbrev RateTable := OrderedMap Date ℚ

structure FxConfig where
  base_currency : String
  rate_source : FxRateSource
  rates : OrderedMap String RateTable
  policy : FxPolicyConfig

structure FxRateMaster where
  base_currency : String
  policy : FxPolicyConfig
  rates : OrderedMap String RateTable
  closing_by_pair : OrderedMap String ℚ
  average_by_pair : OrderedMap String ℚ

def pairKey (functional presentation : String) : String := functional ++ "/" ++ presentation

/-- The two currencies of a pair, parted at the first slash. -/
def split_pair (pair : String) : GroupResult (String × String) :=
  match pair.toList.dropWhile (· ≠ '/') with
  | [] => .error <| .config s!"malformed pair key '{pair}' — expected FUNC/PRES"
  | _ :: presentation =>
      .ok (String.ofList (pair.toList.takeWhile (· ≠ '/')), String.ofList presentation)

def missingPair (pair : String) (period_start period_end : Date) : GroupError :=
  .config <| s!"fx.rates missing pair {pair} for period [" ++ dateText period_start ++ ", " ++
    dateText period_end ++ "]"

/-- A rate on a date of the period. -/
def rateInPeriod (period_start period_end : Date) (d : Date) (r : ℚ) : Option ℚ :=
  if period_start ≤ d ∧ d ≤ period_end then some r else none

/-- A rate on a date of the period, inverted; a zero rate has no inverse. -/
def inverseInPeriod (period_start period_end : Date) (d : Date) (r : ℚ) : Option ℚ :=
  if period_start ≤ d ∧ d ≤ period_end then if r = 0 then none else some (1 / r) else none

section Resolve

variable (cfg : FxConfig) (period_start period_end : Date)

/-- The rates of a pair within the period, taken from its own table or inverted from
that of the swapped pair.  Where the period ends before it starts the source panics;
here no rate is found, which is rejected as well. -/
def periodFiltered (pair inverted_key : String) : RateTable :=
  match cfg.rates.find? pair with
  | some table => table.filterMap (rateInPeriod period_start period_end)
  | none =>
      match cfg.rates.find? inverted_key with
      | some table => table.filterMap (inverseInPeriod period_start period_end)
      | none => OrderedMap.empty

def resolvePair (pair : String) : GroupResult RateTable :=
  (split_pair pair).bind fun (functional, presentation) =>
    let period_filtered :=
      periodFiltered cfg period_start period_end pair (pairKey presentation functional)
    if period_filtered.entries = [] then .error (missingPair pair period_start period_end)
    else .ok period_filtered

def closingRate (pair : String) (table : RateTable) : GroupResult ℚ :=
  match table.values.getLast? with
  | some closing => .ok closing
  | none => .error <| .config s!"no closing rate found for pair {pair}"

def averageRate (table : RateTable) : ℚ := table.values.sum / table.values.length

/-- The pairs in which the entities have to be translated, without repetition. -/
def needed_pairs (presentation_currency : String) (expanded_entities : List ExpandedEntity) :
    List String :=
  (OrderedMap.ofList ((expanded_entities.filter fun entity =>
    decide (entity.functional_currency ≠ presentation_currency)).map fun entity =>
      (pairKey entity.functional_currency presentation_currency, ()))).keys

def build_fx_master (presentation_currency : String) (expanded_entities : List ExpandedEntity) :
    GroupResult FxRateMaster :=
  if cfg.rate_source = .historicalSeries then
    .error <| .config
      "rate_source: historical_series not supported in v5.0 — use inline or user_supplied"
  else if cfg.base_currency ≠ presentation_currency then
    .error <| .config <| "fx.base_currency " ++ cfg.base_currency ++
      s!" does not match group presentation_currency {presentation_currency}"
  else if needed_pairs presentation_currency expanded_entities = [] then
    .ok ⟨presentation_currency, cfg.policy, OrderedMap.empty, OrderedMap.empty, OrderedMap.empty⟩
  else do
    let resolved_rates ← OrderedMap.collectRun id (resolvePair cfg period_start period_end)
      OrderedMap.empty (needed_pairs presentation_currency expanded_entities)
    let closing_by_pair ← OrderedMap.collectRun Prod.fst (fun e => closingRate e.1 e.2)
      OrderedMap.empty resolved_rates.entries
    let average_by_pair := OrderedMap.ofList
      (resolved_rates.entries.map fun e => (e.1, averageRate e.2))
    return ⟨presentation_currency, cfg.policy, resolved_rates, closing_by_pair, average_by_pair⟩

def oppositeKey (pair : String) : String :=
  match split_pair pair with
  | .ok (functional, presentation) => pairKey presentation functional
  | .error _ => pair

/-- The rates at which the configuration quotes a pair on the dates of the period:
those of the pair's own table or, where it has none, the inverses of those that the
table of the swapped pair has and that are not zero. -/
inductive Quoted (pair : String) (table : RateTable) : Prop where
  | directly (source : RateTable) (hsource : cfg.rates.find? pair = some source)
      (hrates : ∀ d r, table.find? d = some r ↔
        source.find? d = some r ∧ period_start ≤ d ∧ d ≤ period_end)
  | inversely (source : RateTable) (hdirect : cfg.rates.find? pair = none)
      (hsource : cfg.rates.find? (oppositeKey pair) = some source)
      (hrates : ∀ d r, table.find? d = some r ↔
        ∃ q, source.find? d = some q ∧ (period_start ≤ d ∧ d ≤ period_end) ∧ q ≠ 0 ∧ r = 1 / q)

theorem quoted_periodFiltered {pair : String}
    (h : (periodFiltered cfg period_start period_end pair (oppositeKey pair)).entries ≠ []) :
    Quoted cfg period_start period_end pair
      (periodFiltered cfg period_start period_end pair (oppositeKey pair)) := by
  cases hdirect : cfg.rates.find? pair with
  | some source =>
      refine .directly source hdirect fun d r => ?_
      simp only [periodFiltered, hdirect, OrderedMap.find?_filterMap_eq_some_iff, rateInPeriod]
      constructor
      · rintro ⟨q, hq, hr⟩
        split at hr
        · cases hr
          exact ⟨hq, ‹_›⟩
        · cases hr
      · rintro ⟨hr, hperiod⟩
        exact ⟨r, hr, if_pos hperiod⟩
  | none =>
      cases hinverse : cfg.rates.find? (oppositeKey pair) with
      | none => simp [periodFiltered, hdirect, hinverse, OrderedMap.empty] at h
      | some source =>
          refine .inversely source hdirect hinverse fun d r => ?_
          simp only [periodFiltered, hdirect, hinverse, OrderedMap.find?_filterMap_eq_some_iff,
            inverseInPeriod]
          constructor
          · rintro ⟨q, hq, hr⟩
            split at hr
            · split at hr
              · cases hr
              · cases hr
                exact ⟨q, hq, ‹_›, ‹_›, rfl⟩
            · cases hr
          · rintro ⟨q, hq, hperiod, hzero, rfl⟩
            exact ⟨q, hq, by rw [if_pos hperiod, if_neg hzero]⟩

theorem quoted_of_resolvePair {pair : String} {table : RateTable}
    (h : resolvePair cfg period_start period_end pair = .ok table) :
    Quoted cfg period_start period_end pair table ∧ table.entries ≠ [] := by
  obtain ⟨⟨functional, presentation⟩, hsplit, h⟩ := bind_eq_ok_iff.mp h
  have hopposite : pairKey presentation functional = oppositeKey pair := by
    rw [oppositeKey, hsplit]
  simp only [hopposite] at h
  split at h
  · cases h
  · cases h
    exact ⟨quoted_periodFiltered cfg period_start period_end ‹_›, ‹_›⟩

end Resolve

section Average

variable {table : RateTable}

def rateSet (table : RateTable) : Set ℚ := {r | ∃ d, table.find? d = some r}

theorem averageRate_between (hvalues : table.values ≠ []) :
    ∃ least greatest, IsLeast (rateSet table) least ∧ IsGreatest (rateSet table) greatest ∧
      least ≤ averageRate table ∧ averageRate table ≤ greatest := by
  have hset : rateSet table = ↑table.values.toFinset := by
    ext r
    rw [Finset.mem_coe, List.mem_toFinset, OrderedMap.mem_values_iff]
    rfl
  have hne : table.values.toFinset.Nonempty := List.toFinset_nonempty_iff _ |>.mpr hvalues
  obtain ⟨⟨x, hx, hbelow⟩, ⟨y, hy, habove⟩⟩ := within_mean hvalues
  have hleast := table.values.toFinset.isLeast_min' hne
  have hgreatest := table.values.toFinset.isGreatest_max' hne
  refine ⟨_, _, hset ▸ hleast, hset ▸ hgreatest, ?_, ?_⟩
  · exact (hleast.2 (List.mem_toFinset.mpr hx)).trans hbelow
  · exact habove.trans (hgreatest.2 (List.mem_toFinset.mpr hy))

theorem closingRate_latest {pair : String} {closing : ℚ}
    (h : closingRate pair table = .ok closing) :
    ∃ date, IsGreatest {d | ∃ r, table.find? d = some r} date ∧
      table.find? date = some closing := by
  rw [closingRate, OrderedMap.values, List.getLast?_map] at h
  cases hlast : table.entries.getLast? with
  | none => simp [hlast] at h
  | some e =>
      rw [hlast] at h
      cases h
      have hfind : table.find? e.1 = some e.2 :=
        (OrderedMap.mem_entries_iff table).mp (List.mem_of_getLast? hlast)
      refine ⟨e.1, ⟨⟨e.2, hfind⟩, ?_⟩, hfind⟩
      rintro d ⟨r, hr⟩
      exact table.le_of_getLast?_eq_some hlast ((OrderedMap.mem_entries_iff table).mpr hr)

end Average

section Coverage

variable (cfg : FxConfig) (period_start period_end : Date)

/-- What a master holds for a pair: the rates quoted within the period, the one of the
latest date as closing rate, and an average between the least and the greatest. -/
structure Covered (master : FxRateMaster) (pair : String) (table : RateTable)
    (closing average : ℚ) : Prop where
  quoted : Quoted cfg period_start period_end pair table
  rates_eq : master.rates.find? pair = some table
  closing_eq : master.closing_by_pair.find? pair = some closing
  average_eq : master.average_by_pair.find? pair = some average
  latest : ∃ date, IsGreatest {d | ∃ r, table.find? d = some r} date ∧
    table.find? date = some closing
  between : ∃ least greatest, IsLeast (rateSet table) least ∧ IsGreatest (rateSet table) greatest ∧
    least ≤ average ∧ average ≤ greatest

theorem mem_needed_pairs {presentation_currency : String} {expanded_entities : List ExpandedEntity}
    {entity : ExpandedEntity} (hentity : entity ∈ expanded_entities)
    (hne : entity.functional_currency ≠ presentation_currency) :
    pairKey entity.functional_currency presentation_currency ∈
      needed_pairs presentation_currency expanded_entities := by
  rw [needed_pairs, OrderedMap.mem_keys_iff, OrderedMap.find?_ofList, Option.isSome_map,
    List.find?_isSome]
  refine ⟨(pairKey entity.functional_currency presentation_currency, ()), ?_, by simp⟩
  rw [List.mem_reverse]
  exact List.mem_map_of_mem (List.mem_filter.mpr ⟨hentity, decide_eq_true hne⟩)

/-- Every entity that has to be translated is covered by the master that was built. -/
theorem covered_of_build_fx_master {presentation_currency : String}
    {expanded_entities : List ExpandedEntity} {master : FxRateMaster}
    (h : build_fx_master cfg period_start period_end presentation_currency expanded_entities =
      .ok master)
    {entity : ExpandedEntity} (hentity : entity ∈ expanded_entities)
    (hne : entity.functional_currency ≠ presentation_currency) :
    ∃ table closing average, Covered cfg period_start period_end master
      (pairKey entity.functional_currency presentation_currency) table closing average := by
  have hneeded := mem_needed_pairs hentity hne
  rw [build_fx_master] at h
  split at h
  · cases h
  split at h
  · cases h
  split at h
  · rename_i hempty
    rw [hempty] at hneeded
    cases hneeded
  obtain ⟨resolved, hresolved, h⟩ := bind_eq_ok_iff.mp h
  obtain ⟨closings, hclosings, h⟩ := bind_eq_ok_iff.mp h
  cases h
  obtain ⟨table, htable, hfind⟩ := OrderedMap.find?_collectRun_of_mem
    (by rw [List.map_id]; exact OrderedMap.keys_nodup _) hresolved hneeded
  obtain ⟨hquoted, hentries⟩ := quoted_of_resolvePair cfg period_start period_end htable
  have hmem := (OrderedMap.mem_entries_iff resolved).mpr hfind
  obtain ⟨closing, hclosing, hclosing_eq⟩ := OrderedMap.find?_collectRun_of_mem
    (OrderedMap.keys_nodup resolved) hclosings hmem
  have haverage := OrderedMap.find?_ofList_eq_some_of_nodup
    (l := resolved.entries.map fun e => (e.1, averageRate e.2))
    (by rw [List.map_map]; exact OrderedMap.keys_nodup resolved) (List.mem_map_of_mem hmem)
  have hvalues : table.values ≠ [] := by
    rw [OrderedMap.values, Ne, List.map_eq_nil_iff]
    exact hentries
  exact ⟨table, closing, averageRate table, hquoted, hfind, hclosing_eq, haverage,
    closingRate_latest hclosing, averageRate_between hvalues⟩

end Coverage

end Datasynth.Group.FxMaster
