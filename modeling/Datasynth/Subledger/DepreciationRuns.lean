import Datasynth.Subledger.FixedAssetRecords
import Mathlib.Algebra.BigOperators.Group.List.Basic

/-!
Runs that post the depreciation of a month, and the forecast of the months ahead.
-/

namespace Datasynth.Subledger.DepreciationRuns

open Datasynth.Lib.CivilCalendar Datasynth.Subledger.FixedAssetRecords

structure DepreciationEntry where
  asset_number : String
  depreciation_method : DepreciationMethod
  acquisition_cost : ℚ
  accumulated_before : ℚ
  depreciation_amount : ℚ
  accumulated_after : ℚ
  net_book_value_after : ℚ
  fully_depreciated : Bool
deriving DecidableEq

def DepreciationEntry.from_asset (asset : FixedAssetRecord) (area_type : DepreciationAreaType) :
    Option DepreciationEntry :=
  (areaOf asset.depreciation_areas area_type).map fun area =>
    let depreciation_amount := area.calculate_monthly_depreciation
    let accumulated_after := area.accumulated_depreciation + depreciation_amount
    let nbv_after := area.acquisition_cost - accumulated_after
    { asset_number := asset.asset_number
      depreciation_method := area.method
      acquisition_cost := area.acquisition_cost
      accumulated_before := area.accumulated_depreciation
      depreciation_amount := depreciation_amount
      accumulated_after := accumulated_after
      net_book_value_after := max nbv_after 0
      fully_depreciated := nbv_after ≤ area.salvage_value }

structure DepreciationRun where
  company_code : String
  depreciation_area : DepreciationAreaType
  asset_entries : List DepreciationEntry
  total_depreciation : ℚ
  asset_count : ℕ
  total_depreciation_eq :
    total_depreciation = (asset_entries.map DepreciationEntry.depreciation_amount).sum
  asset_count_eq : asset_count = asset_entries.length

namespace DepreciationRun

def new (company_code : String) (depreciation_area : DepreciationAreaType) : DepreciationRun where
  company_code := company_code
  depreciation_area := depreciation_area
  asset_entries := []
  total_depreciation := 0
  asset_count := 0
  total_depreciation_eq := rfl
  asset_count_eq := rfl

def add_entry (run : DepreciationRun) (entry : DepreciationEntry) : DepreciationRun :=
  { run with
    asset_entries := run.asset_entries ++ [entry]
    total_depreciation := run.total_depreciation + entry.depreciation_amount
    asset_count := run.asset_count + 1
    total_depreciation_eq := by
      rw [run.total_depreciation_eq, List.map_append, List.sum_append, List.map_singleton,
        List.sum_singleton]
    asset_count_eq := by rw [run.asset_count_eq, List.length_append, List.length_singleton] }

end DepreciationRun

structure DepreciationRunConfig where
  post_zero_entries : Bool
  minimum_amount : ℚ

def DepreciationRunConfig.default : DepreciationRunConfig where
  post_zero_entries := false
  minimum_amount := 0.01

/-- An amount too small to be posted. -/
def DepreciationRunConfig.skips (config : DepreciationRunConfig) (amount : ℚ) : Bool :=
  amount < config.minimum_amount && !config.post_zero_entries

section Run

variable (config : DepreciationRunConfig) (company_code : String)
  (area_type : DepreciationAreaType)

/-- An asset after depreciation has been recorded, and checked for being complete. -/
def depreciate (asset : FixedAssetRecord) (amount : ℚ) (area_type : DepreciationAreaType) :
    FixedAssetRecord :=
  let recorded := asset.record_depreciation amount area_type
  if recorded.is_fully_depreciated then { recorded with status := .fullyDepreciated }
  else recorded

/-- What a run posts for an asset, and the asset after it. -/
def runAsset (asset : FixedAssetRecord) : Option DepreciationEntry × FixedAssetRecord :=
  if asset.status ≠ .active then (none, asset)
  else if asset.company_code ≠ company_code then (none, asset)
  else
    match DepreciationEntry.from_asset asset area_type with
    | none => (none, asset)
    | some entry =>
        if config.skips entry.depreciation_amount then (none, asset)
        else (some entry, depreciate asset entry.depreciation_amount area_type)

def runAssets (run : DepreciationRun) :
    List FixedAssetRecord → DepreciationRun × List FixedAssetRecord
  | [] => (run, [])
  | asset :: assets =>
      let posted := runAsset config company_code area_type asset
      let rest := runAssets (posted.1.elim run run.add_entry) assets
      (rest.1, posted.2 :: rest.2)

/-- The run of the generator is in the book area. -/
def execute_run (assets : List FixedAssetRecord) : DepreciationRun × List FixedAssetRecord :=
  runAssets config company_code area_type (.new company_code area_type) assets

/-- The assets after some runs. -/
def afterRuns (assets : List FixedAssetRecord) (runs : ℕ) : List FixedAssetRecord :=
  (fun assets => (execute_run config company_code area_type assets).2)^[runs] assets

end Run

structure AssetDepreciationForecast where
  asset_number : String
  depreciation_amount : ℚ
  projected_nbv : ℚ

structure MonthlyDepreciationForecast where
  period_date : Date
  total_depreciation : ℚ
  asset_count : ℕ
  asset_details : List AssetDepreciationForecast

structure DepreciationForecast where
  company_code : String
  start_date : Date
  periods : UInt32
  monthly_forecasts : List MonthlyDepreciationForecast
  total_forecast : ℚ

section Forecast

variable (company_code : String) (area_type : DepreciationAreaType)

def isForecast (asset : FixedAssetRecord) : Bool :=
  asset.company_code = company_code && asset.status = .active && !asset.is_fully_depreciated

def forecastDetail (period : ℕ) (asset : FixedAssetRecord) : Option AssetDepreciationForecast :=
  match areaOf asset.depreciation_areas area_type with
  | none => none
  | some area =>
      let projected_accum :=
        area.accumulated_depreciation + area.calculate_monthly_depreciation * period
      let remaining_nbv := max (area.acquisition_cost - projected_accum) 0
      if area.salvage_value < remaining_nbv then
        let monthly := area.calculate_monthly_depreciation
        some
          { asset_number := asset.asset_number
            depreciation_amount := monthly
            projected_nbv := remaining_nbv - monthly }
      else none

def monthlyForecast (active_assets : List FixedAssetRecord) (current_date : Date) (period : ℕ) :
    MonthlyDepreciationForecast :=
  let asset_details := active_assets.filterMap (forecastDetail area_type period)
  { period_date := current_date
    total_depreciation :=
      (asset_details.map AssetDepreciationForecast.depreciation_amount).sum
    asset_count := asset_details.length
    asset_details := asset_details }

def firstOfNextMonth (current_date : Date) : Date :=
  if current_date.month = 12 then .ofYmd (current_date.year + 1) 1 1
  else .ofYmd current_date.year (current_date.month + 1) 1

/-- The months of a forecast that has come to a period. -/
def forecastMonths (active_assets : List FixedAssetRecord) :
    Date → (period : ℕ) → (left : ℕ) → List MonthlyDepreciationForecast
  | _, _, 0 => []
  | current_date, period, left + 1 =>
      monthlyForecast area_type active_assets current_date period ::
        forecastMonths active_assets (firstOfNextMonth current_date) (period + 1) left

def DepreciationForecast.from_assets (assets : List FixedAssetRecord) (start_date : Date)
    (periods : UInt32) : DepreciationForecast :=
  let active_assets := assets.filter (isForecast company_code)
  let monthly_forecasts := forecastMonths area_type active_assets start_date 0 periods.toNat
  { company_code := company_code
    start_date := start_date
    periods := periods
    monthly_forecasts := monthly_forecasts
    total_forecast :=
      (monthly_forecasts.map MonthlyDepreciationForecast.total_depreciation).sum }

end Forecast

section Posted

variable (config : DepreciationRunConfig) (company_code : String)
  (area_type : DepreciationAreaType)

/-- What a run posts for an asset. -/
def posted (asset : FixedAssetRecord) : ℚ :=
  ((runAsset config company_code area_type asset).1.map
    DepreciationEntry.depreciation_amount).getD 0

/-- What the forecast has for an asset in a period. -/
def forecast (period : ℕ) (asset : FixedAssetRecord) : ℚ :=
  if isForecast company_code asset then
    ((forecastDetail area_type period asset).map
      AssetDepreciationForecast.depreciation_amount).getD 0
  else 0

/-- An asset after some runs. -/
def assetAfter (asset : FixedAssetRecord) (runs : ℕ) : FixedAssetRecord :=
  (fun asset => (runAsset config company_code area_type asset).2)^[runs] asset

theorem runAssets_assets (run : DepreciationRun) (assets : List FixedAssetRecord) :
    (runAssets config company_code area_type run assets).2 =
      assets.map fun asset => (runAsset config company_code area_type asset).2 := by
  induction assets generalizing run with
  | nil => rfl
  | cons asset assets ih => exact congrArg _ (ih _)

theorem runAssets_total (run : DepreciationRun) (assets : List FixedAssetRecord) :
    (runAssets config company_code area_type run assets).1.total_depreciation =
      run.total_depreciation + (assets.map (posted config company_code area_type)).sum := by
  induction assets generalizing run with
  | nil => exact (add_zero _).symm
  | cons asset assets ih =>
      have hadd : ((runAsset config company_code area_type asset).1.elim run
          run.add_entry).total_depreciation =
            run.total_depreciation + posted config company_code area_type asset := by
        rw [posted]
        cases (runAsset config company_code area_type asset).1 with
        | none => exact (add_zero _).symm
        | some entry => rfl
      rw [runAssets, ih, hadd, List.map_cons, List.sum_cons, add_assoc]

theorem execute_run_total (assets : List FixedAssetRecord) :
    (execute_run config company_code area_type assets).1.total_depreciation =
      (assets.map (posted config company_code area_type)).sum :=
  (runAssets_total config company_code area_type _ assets).trans (zero_add _)

/-- A run treats each asset by itself. -/
theorem afterRuns_eq_map (assets : List FixedAssetRecord) (runs : ℕ) :
    afterRuns config company_code area_type assets runs =
      assets.map fun asset => assetAfter config company_code area_type asset runs := by
  have hstep : (fun assets => (execute_run config company_code area_type assets).2) =
      List.map fun asset => (runAsset config company_code area_type asset).2 := by
    funext assets
    exact runAssets_assets config company_code area_type _ assets
  rw [afterRuns, hstep]
  induction runs generalizing assets with
  | zero => exact (List.map_id assets).symm
  | succ runs ih =>
      rw [Function.iterate_succ_apply, ih, List.map_map]
      rfl

theorem monthlyForecast_total (assets : List FixedAssetRecord) (current_date : Date)
    (period : ℕ) :
    (monthlyForecast area_type (assets.filter (isForecast company_code)) current_date
        period).total_depreciation =
      (assets.map (forecast company_code area_type period)).sum := by
  change ((((assets.filter (isForecast company_code)).filterMap
    (forecastDetail area_type period)).map _).sum = _)
  induction assets with
  | nil => rfl
  | cons asset assets ih =>
      rw [List.map_cons, List.sum_cons, ← ih, forecast, List.filter_cons]
      split
      · rw [List.filterMap_cons]
        cases forecastDetail area_type period asset with
        | none => exact (zero_add _).symm
        | some detail => rw [List.map_cons, List.sum_cons]; rfl
      · exact (zero_add _).symm

theorem forecastMonths_getElem? (active_assets : List FixedAssetRecord) (current_date : Date)
    {period left month : ℕ} (hmonth : month < left) :
    (forecastMonths area_type active_assets current_date period left)[month]? =
      some (monthlyForecast area_type active_assets (firstOfNextMonth^[month] current_date)
        (period + month)) := by
  induction left generalizing current_date period month with
  | zero => exact absurd hmonth (Nat.not_lt_zero month)
  | succ left ih =>
      cases month with
      | zero => rfl
      | succ month =>
          rw [forecastMonths, List.getElem?_cons_succ, ih _ (Nat.lt_of_succ_lt_succ hmonth),
            Function.iterate_succ_apply, Nat.add_right_comm, Nat.add_assoc]

/-- The total of a month is over the assets. -/
theorem from_assets_month {assets : List FixedAssetRecord} {periods : UInt32} {month : ℕ}
    (start_date : Date) (hmonth : month < periods.toNat) :
    ((DepreciationForecast.from_assets company_code area_type assets start_date
        periods).monthly_forecasts[month]?).map
          MonthlyDepreciationForecast.total_depreciation =
      some ((assets.map (forecast company_code area_type month)).sum) := by
  rw [DepreciationForecast.from_assets, forecastMonths_getElem? _ _ _ hmonth, Option.map_some,
    monthlyForecast_total, Nat.zero_add]

end Posted

end Datasynth.Subledger.DepreciationRuns
