import Mathlib.Algebra.Order.Field.Rat
import Datasynth.Lib.CivilCalendar

/-!
Fixed assets and their monthly depreciation.
-/

namespace Datasynth.Core.FixedAssets

open Datasynth.Lib.CivilCalendar

inductive AssetClass where
  | buildings
  | buildingImprovements
  | land
  | machineryEquipment
  | machinery
  | computerHardware
  | itEquipment
  | furnitureFixtures
  | furniture
  | vehicles
  | leaseholdImprovements
  | intangibles
  | software
  | constructionInProgress
  | lowValueAssets
deriving DecidableEq, Repr

inductive DepreciationMethod where
  | straightLine
  | doubleDecliningBalance
  | sumOfYearsDigits
  | unitsOfProduction
  | macrs
  | immediateExpense
  | degressiv
  | none
deriving DecidableEq, Repr

inductive AssetStatus where
  | underConstruction
  | active
  | inactive
  | fullyDepreciated
  | pendingDisposal
  | disposed
deriving DecidableEq, Repr

def AssetClass.default_useful_life_months : AssetClass → UInt32
  | .buildings | .buildingImprovements => 480
  | .land => 0
  | .machineryEquipment | .machinery => 120
  | .computerHardware | .itEquipment => 36
  | .furnitureFixtures | .furniture => 84
  | .vehicles => 60
  | .leaseholdImprovements => 120
  | .intangibles | .software => 60
  | .constructionInProgress => 0
  | .lowValueAssets => 12

def AssetClass.is_depreciable : AssetClass → Bool
  | .land | .constructionInProgress => false
  | _ => true

def AssetClass.default_depreciation_method : AssetClass → DepreciationMethod
  | .buildings | .buildingImprovements | .leaseholdImprovements => .straightLine
  | .machineryEquipment | .machinery => .straightLine
  | .computerHardware | .itEquipment => .doubleDecliningBalance
  | .furnitureFixtures | .furniture => .straightLine
  | .vehicles => .doubleDecliningBalance
  | .intangibles | .software => .straightLine
  | .lowValueAssets => .immediateExpense
  | .land | .constructionInProgress => .none

section Tables

def MACRS_GDS_3_YEAR : List ℚ := [33.33, 44.45, 14.81, 7.41]

def MACRS_GDS_5_YEAR : List ℚ := [20.00, 32.00, 19.20, 11.52, 11.52, 5.76]

def MACRS_GDS_7_YEAR : List ℚ := [14.29, 24.49, 17.49, 12.49, 8.93, 8.92, 8.93, 4.46]

def MACRS_GDS_10_YEAR : List ℚ :=
  [10.00, 18.00, 14.40, 11.52, 9.22, 7.37, 6.55, 6.55, 6.56, 6.55, 3.28]

def MACRS_GDS_15_YEAR : List ℚ :=
  [5.00, 9.50, 8.55, 7.70, 6.93, 6.23, 5.90, 5.90, 5.91, 5.90, 5.91, 5.90, 5.91, 5.90, 5.91, 2.95]

def MACRS_GDS_20_YEAR : List ℚ :=
  [3.750, 7.219, 6.677, 6.177, 5.713, 5.285, 4.888, 4.522, 4.462, 4.461, 4.462, 4.461, 4.462,
    4.461, 4.462, 4.461, 4.462, 4.461, 4.462, 4.461, 2.231]

def macrs_table_for_life (useful_life_years : ℕ) : Option (List ℚ) :=
  if useful_life_years = 0 then none
  else if useful_life_years ≤ 3 then some MACRS_GDS_3_YEAR
  else if useful_life_years ≤ 5 then some MACRS_GDS_5_YEAR
  else if useful_life_years ≤ 7 then some MACRS_GDS_7_YEAR
  else if useful_life_years ≤ 10 then some MACRS_GDS_10_YEAR
  else if useful_life_years ≤ 15 then some MACRS_GDS_15_YEAR
  else if useful_life_years ≤ 20 then some MACRS_GDS_20_YEAR
  else none

end Tables

/-- The sum of the years is a `u32` and wraps. -/
def sumOfYears (years_total : ℕ) : ℕ := (List.range' 1 years_total).sum % 2 ^ 32

/-- Twice the straight-line rate on what is left. -/
def doubleDeclining (net_book_value : ℚ) (useful_life_months : ℕ) : ℚ :=
  let annual_rate := 2 / (useful_life_months : ℚ) * 12
  let monthly_rate := annual_rate / 12
  net_book_value * monthly_rate

def DepreciationMethod.calculate_monthly_depreciation (method : DepreciationMethod)
    (acquisition_cost salvage_value : ℚ) (useful_life_months months_elapsed : ℕ)
    (accumulated_depreciation : ℚ) : ℚ :=
  if useful_life_months = 0 then 0
  else
    let depreciable_base := acquisition_cost - salvage_value
    let net_book_value := acquisition_cost - accumulated_depreciation
    if net_book_value ≤ salvage_value then 0
    else
      match method with
      | .straightLine =>
          min (depreciable_base / useful_life_months) (net_book_value - salvage_value)
      | .doubleDecliningBalance =>
          min (doubleDeclining net_book_value useful_life_months) (net_book_value - salvage_value)
      | .sumOfYearsDigits =>
          let years_total := useful_life_months / 12
          let sum_of_years := sumOfYears years_total
          let current_year := months_elapsed / 12 + 1
          let remaining_years := years_total - current_year + 1
          if sum_of_years = 0 ∨ remaining_years = 0 then 0
          else
            let year_fraction := (remaining_years : ℚ) / sum_of_years
            let annual_depreciation := depreciable_base * year_fraction
            min (annual_depreciation / 12) (net_book_value - salvage_value)
      | .unitsOfProduction =>
          min (depreciable_base / useful_life_months) (net_book_value - salvage_value)
      | .macrs =>
          match macrs_table_for_life (useful_life_months / 12) with
          | some table =>
              match table[months_elapsed / 12]? with
              | some pct =>
                  let annual_depreciation := acquisition_cost * pct / 100
                  -- The salvage value does not count here.
                  min (annual_depreciation / 12) net_book_value
              | .none => 0
          | .none =>
              min (doubleDeclining net_book_value useful_life_months)
                (net_book_value - salvage_value)
      | .immediateExpense => if months_elapsed = 0 then depreciable_base else 0
      | .degressiv =>
          let useful_life_years := useful_life_months / 12
          if useful_life_years = 0 then 0
          else
            let sl_annual_rate := 1 / (useful_life_years : ℚ)
            let degressiv_rate := min (sl_annual_rate * 3) 0.30
            let degressiv_monthly := net_book_value * degressiv_rate / 12
            let remaining_months := useful_life_months - months_elapsed
            let sl_monthly :=
              if 0 < remaining_months then (net_book_value - salvage_value) / remaining_months
              else 0
            max (min (max degressiv_monthly sl_monthly) (net_book_value - salvage_value)) 0
      | .none => 0

structure FixedAsset where
  asset_class : AssetClass
  acquisition_date : Date
  acquisition_cost : ℚ
  capitalized_date : Option Date
  depreciation_method : DepreciationMethod
  useful_life_months : UInt32
  salvage_value : ℚ
  accumulated_depreciation : ℚ
  net_book_value : ℚ
  status : AssetStatus

def FixedAsset.new (asset_class : AssetClass) (acquisition_date : Date) (acquisition_cost : ℚ) :
    FixedAsset where
  asset_class := asset_class
  acquisition_date := acquisition_date
  acquisition_cost := acquisition_cost
  capitalized_date := some acquisition_date
  depreciation_method := asset_class.default_depreciation_method
  useful_life_months := asset_class.default_useful_life_months
  salvage_value := 0
  accumulated_depreciation := 0
  net_book_value := acquisition_cost
  status := .active

namespace FixedAsset

variable (asset : FixedAsset)

def with_salvage_value (salvage_value : ℚ) : FixedAsset :=
  { asset with salvage_value := salvage_value }

def with_depreciation_method (method : DepreciationMethod) : FixedAsset :=
  { asset with depreciation_method := method }

def with_useful_life_months (months : UInt32) : FixedAsset :=
  { asset with useful_life_months := months }

def months_since_capitalization (as_of_date : Date) : ℕ :=
  let cap_date := asset.capitalized_date.getD asset.acquisition_date
  if as_of_date < cap_date then 0
  else
    let years := as_of_date.year - cap_date.year
    let months := (as_of_date.month : ℤ) - cap_date.month
    (years * 12 + months).toNat

def calculate_monthly_depreciation (as_of_date : Date) : ℚ :=
  if asset.asset_class.is_depreciable = false then 0
  else if asset.status = .disposed then 0
  else
    asset.depreciation_method.calculate_monthly_depreciation asset.acquisition_cost
      asset.salvage_value asset.useful_life_months.toNat
      (asset.months_since_capitalization as_of_date) asset.accumulated_depreciation

def apply_depreciation (depreciation_amount : ℚ) : FixedAsset :=
  let accumulated_depreciation := asset.accumulated_depreciation + depreciation_amount
  let net_book_value := asset.acquisition_cost - accumulated_depreciation
  { asset with
    accumulated_depreciation := accumulated_depreciation
    net_book_value := net_book_value
    status :=
      if net_book_value ≤ asset.salvage_value ∧ asset.status = .active then .fullyDepreciated
      else asset.status }

/-- The charge of one month, calculated and applied. -/
def depreciate (as_of_date : Date) : FixedAsset :=
  asset.apply_depreciation (asset.calculate_monthly_depreciation as_of_date)

def depreciateOver (dates : List Date) : FixedAsset := dates.foldl depreciate asset

end FixedAsset

end Datasynth.Core.FixedAssets
