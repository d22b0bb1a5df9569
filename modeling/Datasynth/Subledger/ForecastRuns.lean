import Datasynth.Lib.FlatForecasts
import Datasynth.Subledger.DepreciationRuns

/-!
Whether the forecast of depreciation has, in each month ahead, what the run of that month posts.
-/

namespace Datasynth.Subledger.ForecastRuns

open Datasynth.Lib.CivilCalendar Datasynth.Lib.FlatForecasts Datasynth.Lib.HalfEvenRounding
open Datasynth.Subledger.FixedAssetRecords Datasynth.Subledger.DepreciationRuns

/-- What is left to depreciate in an area. -/
def remainingBase (area_type : DepreciationAreaType) (asset : FixedAssetRecord) : ℚ :=
  match areaOf asset.depreciation_areas area_type with
  | none => 0
  | some area =>
      max (area.acquisition_cost - area.accumulated_depreciation - area.salvage_value) 0

/-- The forecast of each month is what the run of that month posts, for each asset and in total,
and the forecasts for an asset do not exceed what is left to depreciate. -/
structure ForecastsRuns (config : DepreciationRunConfig) (company_code : String)
    (area_type : DepreciationAreaType) (assets : List FixedAssetRecord) (start_date : Date)
    (periods : UInt32) : Prop where
  amounts : ∀ asset ∈ assets, ∀ month < periods.toNat,
    forecast company_code area_type month asset =
      posted config company_code area_type
        (assetAfter config company_code area_type asset month)
  months : ∀ month < periods.toNat,
    ((DepreciationForecast.from_assets company_code area_type assets start_date
        periods).monthly_forecasts[month]?).map
          MonthlyDepreciationForecast.total_depreciation =
      some (execute_run config company_code area_type
        (afterRuns config company_code area_type assets month)).1.total_depreciation
  base : ∀ asset ∈ assets,
    ∑ month ∈ Finset.range periods.toNat, forecast company_code area_type month asset ≤
      remainingBase area_type asset

/-- As long as more than the salvage value is left, the monthly charge is posted, is covered by
what is left, and stays the same under the method of the declining balance.  Once no more is
left, the salvage value is not negative. -/
structure KeepsUp (config : DepreciationRunConfig) (asset : FixedAssetRecord)
    (area : DepreciationArea) (monthly : ℚ) (months : ℕ) : Prop where
  left : ∀ month < months, area.salvage_value < area.net_book_value - monthly * month →
    config.skips monthly = false ∧ 0 < asset.net_book_value - monthly * month ∧
      monthly ≤ area.net_book_value - monthly * month - area.salvage_value ∧
      ∀ rate, area.method = .decliningBalance rate →
        roundDp 2 ((area.net_book_value - monthly * month) * rate / 12) = monthly
  spent : ∀ month < months, area.net_book_value - monthly * month ≤ area.salvage_value →
    0 ≤ area.salvage_value

/-- An active asset of the company charges nothing in the area, or keeps up, or has a header of
no value and charges too little to be posted. -/
def Forecastable (config : DepreciationRunConfig) (company_code : String)
    (area_type : DepreciationAreaType) (months : ℕ) (asset : FixedAssetRecord) : Prop :=
  asset.status = .active → asset.company_code = company_code →
    ∀ area, areaOf asset.depreciation_areas area_type = some area →
      area.calculate_monthly_depreciation = 0 ∨
        (0 < asset.net_book_value →
          KeepsUp config asset area area.calculate_monthly_depreciation months) ∧
        (asset.net_book_value ≤ 0 →
          months = 0 ∨ config.skips area.calculate_monthly_depreciation = true)

variable {config : DepreciationRunConfig} {company_code : String}
  {area_type : DepreciationAreaType} {asset : FixedAssetRecord} {area : DepreciationArea}

section Step

/-- What is posted of an amount. -/
def postable (config : DepreciationRunConfig) (amount : ℚ) : ℚ :=
  if config.skips amount then 0 else amount

theorem postable_zero (config : DepreciationRunConfig) : postable config 0 = 0 := ite_self 0

theorem postable_eq_iff {amount amount' : ℚ} (hne : amount' ≠ 0) :
    postable config amount = amount' ↔ amount = amount' ∧ config.skips amount' = false := by
  rw [postable]
  split
  · rename_i hskips
    constructor
    · exact fun h => absurd h.symm hne
    · rintro ⟨rfl, hnot⟩
      exact absurd hskips (Bool.eq_false_iff.mp hnot)
  · rename_i hnot
    constructor
    · rintro rfl
      exact ⟨rfl, Bool.eq_false_iff.mpr hnot⟩
    · exact And.left

/-- An asset for which a run posts nothing, and which stays as it is. -/
structure Idle (config : DepreciationRunConfig) (company_code : String)
    (area_type : DepreciationAreaType) (asset : FixedAssetRecord) : Prop where
  posted_eq : posted config company_code area_type asset = 0
  asset_eq : (runAsset config company_code area_type asset).2 = asset

theorem idle_of_runAsset (h : runAsset config company_code area_type asset = (none, asset)) :
    Idle config company_code area_type asset := by
  constructor
  · rw [posted, h]
    rfl
  · rw [h]

theorem idle_of_not_active (hstatus : asset.status ≠ .active) :
    Idle config company_code area_type asset :=
  idle_of_runAsset (if_pos hstatus)

theorem idle_of_other_company (hcompany : asset.company_code ≠ company_code) :
    Idle config company_code area_type asset := by
  apply idle_of_runAsset
  rw [runAsset, if_pos hcompany, ite_self]

theorem idle_of_no_area (harea : areaOf asset.depreciation_areas area_type = none) :
    Idle config company_code area_type asset := by
  apply idle_of_runAsset
  rw [runAsset, DepreciationEntry.from_asset, harea, Option.map_none, ite_self, ite_self]

/-- What a run does for an active asset of its company. -/
theorem runAsset_eq (config : DepreciationRunConfig) (hstatus : asset.status = .active)
    (hcompany : asset.company_code = company_code)
    (harea : areaOf asset.depreciation_areas area_type = some area) :
    posted config company_code area_type asset =
        postable config area.calculate_monthly_depreciation ∧
      (runAsset config company_code area_type asset).2 =
        if config.skips area.calculate_monthly_depreciation then asset
        else depreciate asset area.calculate_monthly_depreciation area_type := by
  rw [posted, runAsset, if_neg (not_not.mpr hstatus), if_neg (not_not.mpr hcompany),
    DepreciationEntry.from_asset, harea, Option.map_some, postable]
  dsimp only
  split
  · exact ⟨rfl, rfl⟩
  · exact ⟨rfl, rfl⟩

end Step

/-- Nothing is posted for an asset that the first run makes idle. -/
theorem posted_assetAfter_of_idle (hposted : posted config company_code area_type asset = 0)
    (hidle : Idle config company_code area_type
      (runAsset config company_code area_type asset).2) (runs : ℕ) :
    posted config company_code area_type
      (assetAfter config company_code area_type asset runs) = 0 := by
  cases runs with
  | zero => exact hposted
  | succ runs =>
      rw [assetAfter, Function.iterate_succ_apply, Function.iterate_fixed hidle.asset_eq,
        hidle.posted_eq]

theorem Idle.posted_assetAfter (h : Idle config company_code area_type asset) (runs : ℕ) :
    posted config company_code area_type
      (assetAfter config company_code area_type asset runs) = 0 := by
  apply posted_assetAfter_of_idle h.posted_eq
  rw [h.asset_eq]
  exact h

section Simulation

/-- An asset in whose area an amount has been recorded since it was active. -/
def recordedIn (asset : FixedAssetRecord) (area_type : DepreciationAreaType) (amount : ℚ) :
    FixedAssetRecord :=
  { asset.record_depreciation amount area_type with
    status := if 0 < asset.net_book_value - amount then .active else .fullyDepreciated }

theorem recordedIn_of_held {amount : ℚ} (hheld : 0 < asset.net_book_value - amount) :
    recordedIn asset area_type amount =
      { asset.record_depreciation amount area_type with status := .active } := by
  rw [recordedIn, if_pos hheld]

theorem recordedIn_of_not_held {amount : ℚ} (hheld : ¬ 0 < asset.net_book_value - amount) :
    recordedIn asset area_type amount =
      { asset.record_depreciation amount area_type with status := .fullyDepreciated } := by
  rw [recordedIn, if_neg hheld]

theorem recordedIn_zero (hstatus : asset.status = .active) (hheld : 0 < asset.net_book_value) :
    recordedIn asset area_type 0 = asset := by
  rw [recordedIn_of_held (by rwa [sub_zero]), asset.record_depreciation_zero, ← hstatus]

theorem recordedIn_record_depreciation (amount amount' : ℚ) :
    (recordedIn asset area_type amount).record_depreciation amount' area_type =
      { asset.record_depreciation (amount + amount') area_type with
        status := (recordedIn asset area_type amount).status } := by
  simp [recordedIn, FixedAssetRecord.record_depreciation, recordInArea_recordInArea, add_assoc]

theorem depreciate_recordedIn {amount : ℚ} (hheld : 0 < asset.net_book_value - amount)
    (amount' : ℚ) :
    depreciate (recordedIn asset area_type amount) amount' area_type =
      recordedIn asset area_type (amount + amount') := by
  have hvalue := asset.record_net_book_value (amount + amount') area_type
  rw [depreciate, recordedIn_record_depreciation]
  dsimp only
  split
  · rename_i hover
    have hheld' : ¬ 0 < asset.net_book_value - (amount + amount') := by
      rw [← hvalue]
      exact not_lt.mpr (of_decide_eq_true hover)
    exact (recordedIn_of_not_held hheld').symm
  · rename_i hover
    have hheld' : 0 < asset.net_book_value - (amount + amount') := by
      rw [← hvalue]
      exact not_le.mp fun h => hover (decide_eq_true h)
    rw [recordedIn_of_held hheld, recordedIn_of_held hheld']

theorem depreciate_zero_of_not_held (hheld : asset.net_book_value ≤ 0) :
    depreciate asset 0 area_type = { asset with status := .fullyDepreciated } := by
  rw [depreciate, asset.record_depreciation_zero]
  exact if_pos (decide_eq_true hheld)

/-- What is posted when a value is left in the area. -/
def areaCharge (config : DepreciationRunConfig) (area : DepreciationArea) (value : ℚ) : ℚ :=
  postable config (area.record (area.net_book_value - value)).calculate_monthly_depreciation

theorem areaCharge_of_le {value : ℚ} (hspent : value ≤ area.salvage_value) :
    areaCharge config area value = 0 := by
  have hzero : (area.record (area.net_book_value - value)).calculate_monthly_depreciation = 0 := by
    apply DepreciationArea.calculate_eq_zero
    rw [DepreciationArea.record_net_book_value, sub_sub_cancel]
    exact hspent
  rw [areaCharge, hzero, postable_zero]

/-- One run, for an asset with which earlier runs have dealt. -/
theorem runAsset_recordedIn (hcompany : asset.company_code = company_code)
    (harea : areaOf asset.depreciation_areas area_type = some area) (amount : ℚ) :
    posted config company_code area_type (recordedIn asset area_type amount) =
        (if 0 < asset.net_book_value - amount then
          areaCharge config area (area.net_book_value - amount) else 0) ∧
      (runAsset config company_code area_type (recordedIn asset area_type amount)).2 =
        recordedIn asset area_type (amount +
          if 0 < asset.net_book_value - amount then
            areaCharge config area (area.net_book_value - amount) else 0) := by
  split
  · rename_i hheld
    have hstatus : (recordedIn asset area_type amount).status = .active := if_pos hheld
    have harea' : areaOf (recordedIn asset area_type amount).depreciation_areas area_type =
        some (area.record amount) := by
      refine (areaOf_recordInArea_self amount asset.depreciation_areas area_type).trans ?_
      rw [harea, Option.map_some]
    obtain ⟨hposted, hafter⟩ := runAsset_eq config hstatus hcompany harea'
    rw [areaCharge, sub_sub_cancel]
    refine ⟨hposted, hafter.trans ?_⟩
    rw [postable]
    split
    · rw [add_zero]
    · exact depreciate_recordedIn hheld _
  · rename_i hheld
    have hidle : Idle config company_code area_type (recordedIn asset area_type amount) := by
      apply idle_of_not_active
      rw [recordedIn, if_neg hheld]
      simp
    rw [add_zero]
    exact ⟨hidle.posted_eq, hidle.asset_eq⟩

/-- The runs charge what is left of the value, as long as the header has any. -/
theorem assetAfter_eq (hstatus : asset.status = .active)
    (hcompany : asset.company_code = company_code)
    (harea : areaOf asset.depreciation_areas area_type = some area)
    (hheld : 0 < asset.net_book_value) (runs : ℕ) :
    assetAfter config company_code area_type asset runs =
      recordedIn asset area_type
        (taken (areaCharge config area) area.net_book_value asset.net_book_value runs) := by
  induction runs with
  | zero => exact (recordedIn_zero hstatus hheld).symm
  | succ runs ih =>
      rw [assetAfter, Function.iterate_succ_apply', ← assetAfter, ih,
        (runAsset_recordedIn hcompany harea _).2, taken]

theorem posted_assetAfter (hstatus : asset.status = .active)
    (hcompany : asset.company_code = company_code)
    (harea : areaOf asset.depreciation_areas area_type = some area)
    (hheld : 0 < asset.net_book_value) (runs : ℕ) :
    posted config company_code area_type
        (assetAfter config company_code area_type asset runs) =
      charged (areaCharge config area) area.net_book_value asset.net_book_value runs := by
  rw [assetAfter_eq hstatus hcompany harea hheld, (runAsset_recordedIn hcompany harea _).1,
    charged]

end Simulation

section Forecast

theorem forecast_of_not (hnot : isForecast company_code asset = false) (month : ℕ) :
    forecast company_code area_type month asset = 0 := by
  rw [forecast, hnot]
  rfl

theorem forecast_of_no_area (harea : areaOf asset.depreciation_areas area_type = none)
    (month : ℕ) : forecast company_code area_type month asset = 0 := by
  rw [forecast, forecastDetail, harea]
  exact ite_self 0

theorem forecast_eq_flatCharge (hstatus : asset.status = .active)
    (hcompany : asset.company_code = company_code)
    (harea : areaOf asset.depreciation_areas area_type = some area)
    (hheld : 0 < asset.net_book_value) (month : ℕ) :
    forecast company_code area_type month asset =
      flatCharge area.net_book_value area.salvage_value area.calculate_monthly_depreciation
        month := by
  have hforecast : isForecast company_code asset = true := by
    simp [isForecast, hstatus, hcompany, FixedAssetRecord.is_fully_depreciated, hheld]
  rw [forecast, if_pos hforecast, forecastDetail, harea, flatCharge, area.net_book_value_eq]
  dsimp only
  rw [sub_sub]
  split
  · rfl
  · rfl

theorem remainingBase_eq (harea : areaOf asset.depreciation_areas area_type = some area) :
    remainingBase area_type asset = max (area.net_book_value - area.salvage_value) 0 := by
  rw [remainingBase, harea, area.net_book_value_eq]

end Forecast

/-- What is forecast for an asset is posted, and does not exceed what is left. -/
def AssetForecast (config : DepreciationRunConfig) (company_code : String)
    (area_type : DepreciationAreaType) (months : ℕ) (asset : FixedAssetRecord) : Prop :=
  (∀ month < months,
    forecast company_code area_type month asset =
      posted config company_code area_type
        (assetAfter config company_code area_type asset month)) ∧
  ∑ month ∈ Finset.range months, forecast company_code area_type month asset ≤
    remainingBase area_type asset

variable {months : ℕ}

theorem remainingBase_nonneg (area_type : DepreciationAreaType) (asset : FixedAssetRecord) :
    0 ≤ remainingBase area_type asset := by
  rw [remainingBase]
  split
  · exact le_rfl
  · exact le_max_right _ _

theorem assetForecast_of_nothing
    (hforecast : ∀ month, forecast company_code area_type month asset = 0)
    (hposted : ∀ runs, posted config company_code area_type
      (assetAfter config company_code area_type asset runs) = 0) :
    AssetForecast config company_code area_type months asset := by
  refine ⟨fun month _ => ?_, ?_⟩
  · rw [hforecast, hposted]
  · rw [Finset.sum_eq_zero fun month _ => hforecast month]
    exact remainingBase_nonneg area_type asset

section Active

variable (hstatus : asset.status = .active) (hcompany : asset.company_code = company_code)
  (harea : areaOf asset.depreciation_areas area_type = some area)

include hstatus hcompany harea

theorem assetForecast_iff_agrees (hheld : 0 < asset.net_book_value) :
    AssetForecast config company_code area_type months asset ↔
      Agrees (areaCharge config area) area.net_book_value asset.net_book_value
        area.salvage_value area.calculate_monthly_depreciation months := by
  have hforecast : ∀ month, forecast company_code area_type month asset = flatCharge
      area.net_book_value area.salvage_value area.calculate_monthly_depreciation month :=
    fun month => forecast_eq_flatCharge hstatus hcompany harea hheld month
  have hposted : ∀ month, posted config company_code area_type
      (assetAfter config company_code area_type asset month) =
        charged (areaCharge config area) area.net_book_value asset.net_book_value month :=
    fun month => posted_assetAfter hstatus hcompany harea hheld month
  simp only [AssetForecast, hforecast, hposted, remainingBase_eq harea]
  exact ⟨fun h => ⟨h.1, h.2⟩, fun h => ⟨h.1, h.2⟩⟩

/-- For a header of no value there is no forecast, and no later run. -/
theorem assetForecast_iff_of_not_held (hheld : asset.net_book_value ≤ 0) :
    AssetForecast config company_code area_type months asset ↔
      area.calculate_monthly_depreciation = 0 ∨ months = 0 ∨
        config.skips area.calculate_monthly_depreciation = true := by
  have hforecast : ∀ month, forecast company_code area_type month asset = 0 := by
    apply forecast_of_not
    simp [isForecast, FixedAssetRecord.is_fully_depreciated, hheld]
  obtain ⟨hposted, hafter⟩ := runAsset_eq config hstatus hcompany harea
  constructor
  · intro h
    rcases Nat.eq_zero_or_pos months with hnone | hsome
    · exact Or.inr (Or.inl hnone)
    · have hfirst := h.1 0 hsome
      rw [hforecast, assetAfter, Function.iterate_zero_apply, hposted, postable] at hfirst
      split at hfirst
      · rename_i hskips
        exact Or.inr (Or.inr hskips)
      · exact Or.inl hfirst.symm
  · have hidle : config.skips area.calculate_monthly_depreciation = true →
        Idle config company_code area_type asset :=
      fun hskips => ⟨hposted.trans (if_pos hskips), hafter.trans (if_pos hskips)⟩
    rintro (hzero | rfl | hskips)
    · apply assetForecast_of_nothing hforecast
      apply posted_assetAfter_of_idle
      · rw [hposted, hzero, postable_zero]
      · rw [hafter]
        split
        · rename_i hskips
          exact hidle hskips
        · apply idle_of_not_active
          rw [hzero, depreciate_zero_of_not_held hheld]
          simp
    · exact ⟨fun month hmonth => absurd hmonth (Nat.not_lt_zero month),
        remainingBase_nonneg area_type asset⟩
    · exact assetForecast_of_nothing hforecast (hidle hskips).posted_assetAfter

end Active

/-- The charges of an area are steady exactly if it keeps up. -/
theorem steady_iff_keepsUp (hcharge : area.calculate_monthly_depreciation ≠ 0) :
    Steady (areaCharge config area) area.net_book_value asset.net_book_value area.salvage_value
        area.calculate_monthly_depreciation months ↔
      KeepsUp config asset area area.calculate_monthly_depreciation months := by
  have hstart : area.salvage_value < area.net_book_value :=
    not_le.mp fun h => hcharge (area.calculate_eq_zero h)
  have hsame : ∀ amount, area.salvage_value < area.net_book_value - amount →
      (areaCharge config area (area.net_book_value - amount) =
          area.calculate_monthly_depreciation ↔
        (∀ rate, area.method = .decliningBalance rate →
          roundDp 2 ((area.net_book_value - amount) * rate / 12) =
            area.calculate_monthly_depreciation) ∧
        config.skips area.calculate_monthly_depreciation = false) := by
    intro amount hleft
    rw [areaCharge, sub_sub_cancel, postable_eq_iff hcharge,
      area.calculate_record_eq_iff hstart hleft]
  constructor
  · intro h
    refine ⟨fun month hmonth hleft => ?_, fun month hmonth => (h month hmonth).2⟩
    obtain ⟨hheld, hcovered, hcharged⟩ := (h month hmonth).1 hleft
    obtain ⟨hrate, hposted⟩ := (hsame _ hleft).mp hcharged
    exact ⟨hposted, hheld, hcovered, hrate⟩
  · intro h month hmonth
    refine ⟨fun hleft => ?_, h.spent month hmonth⟩
    obtain ⟨hposted, hheld, hcovered, hrate⟩ := h.left month hmonth hleft
    exact ⟨hheld, hcovered, (hsame _ hleft).mpr ⟨hrate, hposted⟩⟩

theorem agrees_iff_keepsUp (area : DepreciationArea) (months : ℕ) :
    Agrees (areaCharge config area) area.net_book_value asset.net_book_value area.salvage_value
        area.calculate_monthly_depreciation months ↔
      area.calculate_monthly_depreciation = 0 ∨
        KeepsUp config asset area area.calculate_monthly_depreciation months := by
  have hfirst : area.calculate_monthly_depreciation = 0 →
      areaCharge config area area.net_book_value = 0 := by
    intro hzero
    rw [areaCharge, sub_self, area.record_zero, hzero, postable_zero]
  have hstart : area.calculate_monthly_depreciation ≠ 0 →
      area.salvage_value < area.net_book_value :=
    fun hcharge => not_le.mp fun h => hcharge (area.calculate_eq_zero h)
  rw [agrees_iff hfirst hstart fun _ => areaCharge_of_le]
  exact or_congr_right' steady_iff_keepsUp

theorem assetForecast_iff (asset : FixedAssetRecord) :
    AssetForecast config company_code area_type months asset ↔
      Forecastable config company_code area_type months asset := by
  rcases ne_or_eq asset.status .active with hstatus | hstatus
  · have hnot : isForecast company_code asset = false := by simp [isForecast, hstatus]
    exact iff_of_true
      (assetForecast_of_nothing (forecast_of_not hnot)
        (idle_of_not_active hstatus).posted_assetAfter)
      (fun hactive => absurd hactive hstatus)
  rcases ne_or_eq asset.company_code company_code with hcompany | hcompany
  · have hnot : isForecast company_code asset = false := by simp [isForecast, hcompany]
    exact iff_of_true
      (assetForecast_of_nothing (forecast_of_not hnot)
        (idle_of_other_company hcompany).posted_assetAfter)
      (fun _ hsame => absurd hsame hcompany)
  cases harea : areaOf asset.depreciation_areas area_type with
  | none =>
      apply iff_of_true
      · exact assetForecast_of_nothing (forecast_of_no_area harea)
          (idle_of_no_area harea).posted_assetAfter
      · intro _ _ area hsome
        rw [harea] at hsome
        cases hsome
  | some area =>
      have hforecastable : Forecastable config company_code area_type months asset ↔
          area.calculate_monthly_depreciation = 0 ∨
            (0 < asset.net_book_value →
              KeepsUp config asset area area.calculate_monthly_depreciation months) ∧
            (asset.net_book_value ≤ 0 →
              months = 0 ∨ config.skips area.calculate_monthly_depreciation = true) := by
        rw [Forecastable, harea]
        exact ⟨fun h => h hstatus hcompany area rfl, fun h _ _ area' hsome =>
          Option.some.inj hsome ▸ h⟩
      rw [hforecastable]
      rcases lt_or_ge 0 asset.net_book_value with hheld | hheld
      · rw [assetForecast_iff_agrees hstatus hcompany harea hheld,
          agrees_iff_keepsUp area months]
        simp [hheld, not_le.mpr hheld]
      · rw [assetForecast_iff_of_not_held hstatus hcompany harea hheld]
        simp [hheld, not_lt.mpr hheld]

theorem forecastsRuns_iff_assets (assets : List FixedAssetRecord) (start_date : Date)
    (periods : UInt32) :
    ForecastsRuns config company_code area_type assets start_date periods ↔
      ∀ asset ∈ assets, AssetForecast config company_code area_type periods.toNat asset := by
  constructor
  · intro h asset hasset
    exact ⟨h.amounts asset hasset, h.base asset hasset⟩
  · intro h
    refine ⟨fun asset hasset => (h asset hasset).1, fun month hmonth => ?_,
      fun asset hasset => (h asset hasset).2⟩
    rw [from_assets_month company_code area_type start_date hmonth, execute_run_total,
      afterRuns_eq_map, List.map_map]
    apply congrArg (fun amounts => some (List.sum amounts))
    apply List.map_congr_left
    exact fun asset hasset => (h asset hasset).1 month hmonth

/-- The forecast has what the runs post exactly if every asset charges nothing or keeps up. -/
theorem forecasts_runs_iff (config : DepreciationRunConfig) (company_code : String)
    (area_type : DepreciationAreaType) (assets : List FixedAssetRecord) (start_date : Date)
    (periods : UInt32) :
    ForecastsRuns config company_code area_type assets start_date periods ↔
      ∀ asset ∈ assets, Forecastable config company_code area_type periods.toNat asset := by
  rw [forecastsRuns_iff_assets]
  exact forall₂_congr fun asset _ => assetForecast_iff asset

def vehicleArea : DepreciationArea := .new .book (.decliningBalance 0.4) 60 1200

/-- A vehicle of 1,200 that loses 40 % of its value each year. -/
def vehicle : FixedAssetRecord :=
  (FixedAssetRecord.new "ASSET001" "1000" 1200).add_depreciation_area vehicleArea

/-- After the first month, less of the vehicle is charged than was forecast. -/
theorem vehicle_slows_down :
    ¬ ∀ (company_code : String) (area_type : DepreciationAreaType)
      (assets : List FixedAssetRecord) (start_date : Date) (periods : UInt32),
      ForecastsRuns .default company_code area_type assets start_date periods := by
  intro h
  have hassets := (forecastsRuns_iff_assets [vehicle] (.ofYmd 2024 1 1) 2).mp
    (h "1000" .book [vehicle] (.ofYmd 2024 1 1) 2)
  have hvehicle := (assetForecast_iff vehicle).mp (hassets vehicle (List.mem_singleton_self _))
  have hmonthly : vehicleArea.calculate_monthly_depreciation = 40 := by
    have hround : roundDp 2 (1200 * 0.4 / 12 : ℚ) = (4000 : ℤ) / 10 ^ 2 := by
      apply roundDp_eq
      norm_num [abs_lt]
    exact hround.trans (by norm_num)
  have hnext : roundDp 2 ((1200 - 40 * (1 : ℕ)) * 0.4 / 12 : ℚ) = (3867 : ℤ) / 10 ^ 2 := by
    apply roundDp_eq
    norm_num [abs_lt]
  rcases hvehicle rfl rfl vehicleArea rfl with hnothing | ⟨hheld, -⟩
  · rw [hmonthly] at hnothing
    norm_num at hnothing
  · have hkeeps := (hheld (by decide_cbv)).left 1 (by decide)
    rw [hmonthly] at hkeeps
    obtain ⟨-, -, -, hrate⟩ := hkeeps (by norm_num [vehicleArea, DepreciationArea.new])
    have hsame := hrate 0.4 rfl
    rw [show vehicleArea.net_book_value = 1200 from rfl, hnext] at hsame
    norm_num at hsame

end Datasynth.Subledger.ForecastRuns
