import Datasynth.Lib.DoubleValues
import Datasynth.Subledger.FixedAssetRecords
import Mathlib.Data.List.Chain
import Mathlib.Tactic.Linarith
import Mathlib.Tactic.Ring

/-!
The annual view of the depreciation of an asset, and when it adds up to what is depreciable.
-/

namespace Datasynth.Subledger.DepreciationSchedules

open Datasynth.Lib.DoubleValues Datasynth.Lib.HalfEvenRounding
open Datasynth.Subledger.FixedAssetRecords

structure AnnualDepreciationEntry where
  year : ℕ
  beginning_nbv : ℚ
  depreciation : ℚ
  ending_nbv : ℚ
deriving DecidableEq

structure DepreciationSchedule where
  asset_number : String
  acquisition_cost : ℚ
  salvage_value : ℚ
  method : DepreciationMethod
  useful_life_months : UInt32
  annual_entries : List AnnualDepreciationEntry
deriving DecidableEq

/-- The months of a life in years, divided as floating-point numbers and rounded up. -/
def yearsOf (useful_life_months : UInt32) : ℕ :=
  ⌈nearest ((useful_life_months.toNat : ℚ) / 12)⌉.toNat

/-- The loop over the years, which ends early at the salvage value. -/
def annualEntries (area : DepreciationArea) (monthly : ℚ) :
    ℕ → ℕ → ℚ → List AnnualDepreciationEntry
  | 0, _, _ => []
  | years + 1, year, cumulative_before =>
      let depreciable_base := area.acquisition_cost - area.salvage_value
      let annual := min (monthly * 12) (depreciable_base - cumulative_before)
      let cumulative := cumulative_before + annual
      let ending_nbv := area.acquisition_cost - cumulative
      { year := year
        beginning_nbv := area.acquisition_cost - (cumulative - annual)
        depreciation := annual
        ending_nbv := max ending_nbv area.salvage_value } ::
        if ending_nbv ≤ area.salvage_value then []
        else annualEntries area monthly years (year + 1) cumulative

def DepreciationSchedule.for_asset (asset : FixedAssetRecord) (area_type : DepreciationAreaType) :
    Option DepreciationSchedule :=
  (areaOf asset.depreciation_areas area_type).map fun area =>
    { asset_number := asset.asset_number
      acquisition_cost := area.acquisition_cost
      salvage_value := area.salvage_value
      method := area.method
      useful_life_months := area.useful_life_months
      annual_entries := annualEntries area area.calculate_monthly_depreciation
        (yearsOf area.useful_life_months) 1 0 }

/-- The amounts of a schedule are not negative, its values chain, and it adds up. -/
structure AddsUp (schedule : DepreciationSchedule) : Prop where
  nonneg : ∀ entry ∈ schedule.annual_entries, 0 ≤ entry.depreciation
  closes : ∀ entry ∈ schedule.annual_entries,
    entry.ending_nbv = entry.beginning_nbv - entry.depreciation
  chains : schedule.annual_entries.IsChain fun entry next => next.beginning_nbv = entry.ending_nbv
  total : (schedule.annual_entries.map (·.depreciation)).sum =
    schedule.acquisition_cost - schedule.salvage_value

/-- There is nothing to depreciate, or the rounded charges of the years that the life takes are
enough for it. -/
def ChargesSuffice (area : DepreciationArea) : Prop :=
  area.acquisition_cost = area.salvage_value ∨
    area.salvage_value < area.acquisition_cost ∧ area.salvage_value < area.net_book_value ∧
      area.acquisition_cost - area.salvage_value ≤
        ⌈(area.useful_life_months.toNat : ℚ) / 12⌉ *
          (roundDp 2 ((area.acquisition_cost - area.salvage_value) /
            area.useful_life_months.toNat) * 12)

section Loops

variable {area : DepreciationArea} {monthly cumulative : ℚ} {years year : ℕ}

/-- A year closes above the salvage value, and is the last one if its charge is what is left. -/
theorem annualEntries_succ (area : DepreciationArea) (monthly : ℚ) (years year : ℕ)
    (cumulative : ℚ) :
    annualEntries area monthly (years + 1) year cumulative =
      { year := year
        beginning_nbv := area.acquisition_cost - cumulative
        depreciation :=
          min (monthly * 12) (area.acquisition_cost - area.salvage_value - cumulative)
        ending_nbv := area.acquisition_cost - cumulative -
          min (monthly * 12) (area.acquisition_cost - area.salvage_value - cumulative) } ::
        if area.acquisition_cost - area.salvage_value - cumulative ≤ monthly * 12 then []
        else annualEntries area monthly years (year + 1) (cumulative + monthly * 12) := by
  rw [annualEntries]
  simp only [add_sub_cancel_right, ← sub_sub]
  have hclose : ∀ annual : ℚ, area.acquisition_cost - cumulative - annual ≤ area.salvage_value ↔
      area.acquisition_cost - area.salvage_value - cumulative ≤ annual := by
    intro annual
    constructor <;> intro h <;> linarith
  rcases le_total (area.acquisition_cost - area.salvage_value - cumulative) (monthly * 12)
    with hlast | hmore
  · rw [min_eq_right hlast, if_pos ((hclose _).mpr (le_refl _)), if_pos hlast, max_eq_left]
    linarith
  · rw [min_eq_left hmore, max_eq_left (by linarith)]
    simp only [hclose]

/-- The charges are those of the years, up to what is left. -/
theorem sum_annualEntries (hmonthly : 0 ≤ monthly)
    (hleft : cumulative ≤ area.acquisition_cost - area.salvage_value) :
    ((annualEntries area monthly years year cumulative).map (·.depreciation)).sum =
      min (years * (monthly * 12)) (area.acquisition_cost - area.salvage_value - cumulative) := by
  induction years generalizing year cumulative with
  | zero =>
      rw [Nat.cast_zero, zero_mul, min_eq_left (sub_nonneg.mpr hleft)]
      rfl
  | succ years ih =>
      have hyears : (0 : ℚ) ≤ years * (monthly * 12) := by positivity
      rw [annualEntries_succ, List.map_cons, List.sum_cons, Nat.cast_succ, add_mul, one_mul]
      split
      · rename_i hlast
        rw [List.map_nil, List.sum_nil, add_zero, min_eq_right hlast, min_eq_right (by linarith)]
      · rename_i hmore
        have hrest : cumulative + monthly * 12 ≤ area.acquisition_cost - area.salvage_value := by
          linarith
        rw [ih hrest, min_eq_left (not_le.mp hmore).le, ← sub_sub, ← min_add_add_left,
          add_comm (monthly * 12), add_sub_cancel]

theorem annualEntries_nonneg (hmonthly : 0 ≤ monthly)
    (hleft : cumulative ≤ area.acquisition_cost - area.salvage_value) :
    ∀ entry ∈ annualEntries area monthly years year cumulative, 0 ≤ entry.depreciation := by
  induction years generalizing year cumulative with
  | zero => exact List.forall_mem_nil _
  | succ years ih =>
      have hannual : 0 ≤ monthly * 12 := by positivity
      rw [annualEntries_succ, List.forall_mem_cons]
      refine ⟨le_min hannual (sub_nonneg.mpr hleft), ?_⟩
      split
      · exact List.forall_mem_nil _
      · exact ih (by linarith)

theorem annualEntries_closes (area : DepreciationArea) (monthly : ℚ) (years year : ℕ)
    (cumulative : ℚ) :
    ∀ entry ∈ annualEntries area monthly years year cumulative,
      entry.ending_nbv = entry.beginning_nbv - entry.depreciation := by
  induction years generalizing year cumulative with
  | zero => exact List.forall_mem_nil _
  | succ years ih =>
      rw [annualEntries_succ, List.forall_mem_cons]
      refine ⟨rfl, ?_⟩
      split
      · exact List.forall_mem_nil _
      · exact ih _ _

/-- The first year begins where the years before it ended. -/
theorem beginning_nbv_of_mem_head? {entry : AnnualDepreciationEntry}
    (h : entry ∈ (annualEntries area monthly years year cumulative).head?) :
    entry.beginning_nbv = area.acquisition_cost - cumulative := by
  cases years with
  | zero => cases h
  | succ years =>
      rw [annualEntries_succ] at h
      cases h
      rfl

theorem isChain_annualEntries (area : DepreciationArea) (monthly : ℚ) (years year : ℕ)
    (cumulative : ℚ) :
    (annualEntries area monthly years year cumulative).IsChain fun entry next =>
      next.beginning_nbv = entry.ending_nbv := by
  induction years generalizing year cumulative with
  | zero => exact List.isChain_nil
  | succ years ih =>
      rw [annualEntries_succ]
      split
      · exact List.isChain_singleton _
      · rename_i hmore
        rw [List.isChain_cons]
        refine ⟨fun next hnext => ?_, ih _ _⟩
        rw [beginning_nbv_of_mem_head? hnext, min_eq_left (not_le.mp hmore).le, sub_sub]

end Loops

section Schedules

variable (area : DepreciationArea)

theorem yearsOf_eq (useful_life_months : UInt32) :
    (yearsOf useful_life_months : ℚ) = ⌈(useful_life_months.toNat : ℚ) / 12⌉ := by
  have hmonths : useful_life_months.toNat < 2 ^ 53 :=
    useful_life_months.toNat_lt.trans (by norm_num)
  have hnonneg : 0 ≤ ⌈(useful_life_months.toNat : ℚ) / 12⌉ := Int.ceil_nonneg (by positivity)
  rw [yearsOf, ← Nat.cast_ofNat (R := ℚ) (n := 12), ceil_nearest_div (by norm_num) hmonths]
  exact_mod_cast Int.toNat_of_nonneg hnonneg

theorem calculate_monthly_depreciation_straightLine (h : area.method = .straightLine) :
    area.calculate_monthly_depreciation =
      if area.net_book_value ≤ area.salvage_value then 0
      else roundDp 2 ((area.acquisition_cost - area.salvage_value) /
        area.useful_life_months.toNat) := by
  rw [DepreciationArea.calculate_monthly_depreciation, DepreciationArea.is_fully_depreciated, h]
  simp only [decide_eq_true_eq]
  split
  · rfl
  · split
    · rfl
    · rename_i hlife
      have hzero : area.useful_life_months = 0 := by
        simpa [UInt32.pos_iff_ne_zero] using hlife
      simp [hzero]

theorem calculate_monthly_depreciation_nonneg (h : area.method = .straightLine)
    (hbase : 0 ≤ area.acquisition_cost - area.salvage_value) :
    0 ≤ area.calculate_monthly_depreciation := by
  rw [calculate_monthly_depreciation_straightLine area h]
  split
  · exact le_refl 0
  · exact roundDp_nonneg 2 (div_nonneg hbase (Nat.cast_nonneg _))

/-- The years add up to what is depreciable exactly if it is not negative and their charges
reach it. -/
theorem annualEntries_total_iff (monthly : ℚ)
    (hmonthly : 0 ≤ area.acquisition_cost - area.salvage_value → 0 ≤ monthly) (years : ℕ) :
    ((∀ entry ∈ annualEntries area monthly years 1 0, 0 ≤ entry.depreciation) ∧
        ((annualEntries area monthly years 1 0).map (·.depreciation)).sum =
          area.acquisition_cost - area.salvage_value) ↔
      0 ≤ area.acquisition_cost - area.salvage_value ∧
        area.acquisition_cost - area.salvage_value ≤ years * (monthly * 12) := by
  constructor
  · rintro ⟨hnonneg, htotal⟩
    have hbase : 0 ≤ area.acquisition_cost - area.salvage_value := by
      rw [← htotal]
      apply List.sum_nonneg
      intro x hx
      obtain ⟨entry, hentry, rfl⟩ := List.mem_map.mp hx
      exact hnonneg entry hentry
    rw [sum_annualEntries (hmonthly hbase) hbase, sub_zero, min_eq_right_iff] at htotal
    exact ⟨hbase, htotal⟩
  · rintro ⟨hbase, henough⟩
    refine ⟨annualEntries_nonneg (hmonthly hbase) hbase, ?_⟩
    rw [sum_annualEntries (hmonthly hbase) hbase, sub_zero, min_eq_right henough]

theorem chargesSuffice_iff (h : area.method = .straightLine) :
    ChargesSuffice area ↔
      0 ≤ area.acquisition_cost - area.salvage_value ∧
        area.acquisition_cost - area.salvage_value ≤ yearsOf area.useful_life_months *
          (area.calculate_monthly_depreciation * 12) := by
  rw [calculate_monthly_depreciation_straightLine area h, yearsOf_eq, ChargesSuffice, sub_nonneg]
  constructor
  · rintro (hnothing | ⟨hbase, hvalue, henough⟩)
    · rw [hnothing, sub_self, zero_div, roundDp_zero, ite_self, zero_mul, mul_zero]
      exact ⟨le_refl _, le_refl _⟩
    · rw [if_neg (not_le.mpr hvalue)]
      exact ⟨hbase.le, henough⟩
  · rintro ⟨hbase, henough⟩
    rcases hbase.eq_or_lt with hnothing | hsome
    · exact Or.inl hnothing.symm
    · right
      by_cases hvalue : area.net_book_value ≤ area.salvage_value
      · rw [if_pos hvalue, zero_mul, mul_zero] at henough
        linarith
      · rw [if_neg hvalue] at henough
        exact ⟨hsome, not_le.mp hvalue, henough⟩

/-- For every asset and area, the straight-line schedule adds up exactly if its charges suffice. -/
theorem schedule_adds_up_iff (asset : FixedAssetRecord) (area_type : DepreciationAreaType) :
    (∀ schedule, DepreciationSchedule.for_asset asset area_type = some schedule →
        schedule.method = .straightLine → AddsUp schedule) ↔
      ∀ area, areaOf asset.depreciation_areas area_type = some area →
        area.method = .straightLine → ChargesSuffice area := by
  rw [DepreciationSchedule.for_asset]
  cases areaOf asset.depreciation_areas area_type with
  | none => simp
  | some area =>
      simp only [Option.map_some, Option.some.injEq, forall_eq']
      apply imp_congr_right
      intro hmethod
      rw [chargesSuffice_iff area hmethod, ← annualEntries_total_iff area _
        (calculate_monthly_depreciation_nonneg area hmethod)]
      constructor
      · intro h
        exact ⟨h.nonneg, h.total⟩
      · rintro ⟨hnonneg, htotal⟩
        exact ⟨hnonneg, annualEntries_closes area _ _ _ _, isChain_annualEntries area _ _ _ _,
          htotal⟩

/-- A book area of 100 with a life of a year. -/
def yearArea : DepreciationArea := .new .book .straightLine 12 100

/-- Twelve charges of 8.33 make 99.96. -/
theorem twelve_charges_fall_short :
    ¬ ∀ (asset : FixedAssetRecord) (area_type : DepreciationAreaType) (schedule),
      DepreciationSchedule.for_asset asset area_type = some schedule →
        schedule.method = .straightLine → AddsUp schedule := by
  intro h
  have hadds := h ((FixedAssetRecord.new "ASSET001" "1000" 100).add_depreciation_area yearArea)
    .book _ rfl rfl
  have hcharges := (annualEntries_total_iff yearArea yearArea.calculate_monthly_depreciation
    (calculate_monthly_depreciation_nonneg yearArea rfl) _).mp ⟨hadds.nonneg, hadds.total⟩
  have hround : roundDp 2 ((100 - 0) / 12 : ℚ) = (833 : ℤ) / 10 ^ 2 := by
    apply roundDp_eq
    norm_num [abs_lt]
  have hceil : ⌈(12 : ℚ) / 12⌉ = 1 := by norm_num
  rcases (chargesSuffice_iff yearArea rfl).mpr hcharges with hnothing | ⟨-, -, henough⟩
  · exact absurd hnothing (by decide_cbv)
  · change (100 : ℚ) - 0 ≤ ⌈(12 : ℚ) / 12⌉ * (roundDp 2 ((100 - 0) / 12) * 12) at henough
    rw [hround, hceil] at henough
    norm_num at henough

end Schedules

end Datasynth.Subledger.DepreciationSchedules
