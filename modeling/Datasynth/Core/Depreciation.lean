import Mathlib.Algebra.BigOperators.Intervals
import Mathlib.Algebra.BigOperators.Ring.Finset
import Mathlib.Algebra.Order.BigOperators.Group.Finset
import Mathlib.Algebra.Order.Ring.Rat
import Mathlib.Data.Nat.Prime.Basic
import Mathlib.Tactic.FieldSimp
import Mathlib.Tactic.Linarith
import Mathlib.Tactic.Ring
import Datasynth.Core.FixedAssets
import Datasynth.Lib.Charges

/-!
Depreciation over runs of months: which methods reach the salvage value at the end of the
useful life, and which never go below it.
-/

namespace Datasynth.Core.Depreciation

open Datasynth.Core.FixedAssets
open Datasynth.Lib.CivilCalendar
open Datasynth.Lib.Depletion

/-- Consistent books, and nothing depreciated that should not have been. -/
structure Booked (asset : FixedAsset) : Prop where
  net_book_value : asset.net_book_value = asset.acquisition_cost - asset.accumulated_depreciation
  accumulated_nonneg : 0 ≤ asset.accumulated_depreciation
  salvage_le : asset.salvage_value ≤ asset.net_book_value

/-- What is left to depreciate. -/
def remaining (asset : FixedAsset) : ℚ :=
  asset.acquisition_cost - asset.accumulated_depreciation - asset.salvage_value

section Depreciate

variable (asset : FixedAsset) (as_of_date : Date)

theorem remaining_depreciate : remaining (asset.depreciate as_of_date) =
    remaining asset - asset.calculate_monthly_depreciation as_of_date := by
  simp only [remaining, FixedAsset.depreciate, FixedAsset.apply_depreciation]
  ring

theorem net_book_value_depreciate : (asset.depreciate as_of_date).net_book_value =
    remaining (asset.depreciate as_of_date) + asset.salvage_value := by
  simp only [remaining, FixedAsset.depreciate, FixedAsset.apply_depreciation]
  ring

theorem net_book_value_depreciateOver (h : asset.net_book_value = remaining asset +
    asset.salvage_value) (dates : List Date) : (asset.depreciateOver dates).net_book_value =
      remaining (asset.depreciateOver dates) + (asset.depreciateOver dates).salvage_value := by
  induction dates generalizing asset with
  | nil => exact h
  | cons d dates ih => exact ih _ (net_book_value_depreciate asset d)

theorem status_depreciate :
    (asset.depreciate as_of_date).status ≠ .disposed ↔ asset.status ≠ .disposed := by
  simp only [FixedAsset.depreciate, FixedAsset.apply_depreciation]
  split
  · rename_i h
    rw [h.2]
    decide
  · rfl

/-- What depreciation leaves as it is. -/
structure SameTerms (asset asset' : FixedAsset) : Prop where
  salvage_value : asset'.salvage_value = asset.salvage_value
  depreciation_method : asset'.depreciation_method = asset.depreciation_method
  useful_life_months : asset'.useful_life_months = asset.useful_life_months
  months_since_capitalization :
    asset'.months_since_capitalization = asset.months_since_capitalization

theorem sameTerms_depreciateOver (dates : List Date) :
    SameTerms asset (asset.depreciateOver dates) := by
  induction dates generalizing asset with
  | nil => exact ⟨rfl, rfl, rfl, rfl⟩
  | cons d dates ih =>
      have h := ih (asset.depreciate d)
      exact ⟨h.salvage_value, h.depreciation_method, h.useful_life_months,
        h.months_since_capitalization⟩

end Depreciate

section Charges

variable {method : DepreciationMethod} {cost salvage accumulated : ℚ} {life elapsed : ℕ}

/-- Whether the salvage value limits a charge: it does not for MACRS by table, nor for an
immediate expense of what is depreciated in part. -/
def LimitedBySalvage (method : DepreciationMethod) (life : ℕ) (accumulated : ℚ) : Prop :=
  (method = .macrs → macrs_table_for_life (life / 12) = none) ∧
    (method = .immediateExpense → accumulated = 0)

theorem charge_eq_zero (h : cost - accumulated ≤ salvage) :
    method.calculate_monthly_depreciation cost salvage life elapsed accumulated = 0 := by
  rw [DepreciationMethod.calculate_monthly_depreciation]
  split
  · rfl
  · exact if_pos h

theorem charge_le_remaining (h : LimitedBySalvage method life accumulated)
    (hsalvage : salvage ≤ cost - accumulated) :
    method.calculate_monthly_depreciation cost salvage life elapsed accumulated ≤
      cost - accumulated - salvage := by
  have hremaining : 0 ≤ cost - accumulated - salvage := sub_nonneg.mpr hsalvage
  rw [DepreciationMethod.calculate_monthly_depreciation]
  split
  · exact hremaining
  · simp only
    split
    · exact hremaining
    · cases method with
      | straightLine => exact min_le_right _ _
      | doubleDecliningBalance => exact min_le_right _ _
      | sumOfYearsDigits =>
          simp only
          split
          · exact hremaining
          · exact min_le_right _ _
      | unitsOfProduction => exact min_le_right _ _
      | macrs =>
          simp only [h.1 rfl]
          exact min_le_right _ _
      | immediateExpense =>
          simp only
          split
          · rw [h.2 rfl, sub_zero]
          · exact hremaining
      | degressiv =>
          simp only
          split
          · exact hremaining
          · exact max_le (min_le_right _ _) hremaining
      | none => exact hremaining

theorem charge_macrs_le (h : min 0 salvage ≤ cost - accumulated) :
    DepreciationMethod.macrs.calculate_monthly_depreciation cost salvage life elapsed accumulated ≤
      cost - accumulated - min 0 salvage := by
  have hremaining : 0 ≤ cost - accumulated - min 0 salvage := sub_nonneg.mpr h
  have hzero : cost - accumulated ≤ cost - accumulated - min 0 salvage := by
    rw [le_sub_self_iff]
    exact min_le_left _ _
  have hsalvage : cost - accumulated - salvage ≤ cost - accumulated - min 0 salvage :=
    sub_le_sub_left (min_le_right _ _) _
  rw [DepreciationMethod.calculate_monthly_depreciation]
  split
  · exact hremaining
  · simp only
    split
    · exact hremaining
    · split
      · split
        · exact (min_le_right _ _).trans hzero
        · exact hremaining
      · exact (min_le_right _ _).trans hsalvage

end Charges

section Runs

/-- Depreciation is calculated. -/
structure InService (asset : FixedAsset) : Prop where
  depreciable : asset.asset_class.is_depreciable = true
  status : asset.status ≠ .disposed

variable {asset : FixedAsset}

theorem InService.depreciate (h : InService asset) (d : Date) : InService (asset.depreciate d) :=
  ⟨h.depreciable, (status_depreciate asset d).mpr h.status⟩

theorem InService.depreciateOver (h : InService asset) (dates : List Date) :
    InService (asset.depreciateOver dates) := by
  induction dates generalizing asset with
  | nil => exact h
  | cons d dates ih => exact ih (h.depreciate d)

theorem InService.charge_eq (h : InService asset) (d : Date) :
    asset.calculate_monthly_depreciation d =
      asset.depreciation_method.calculate_monthly_depreciation asset.acquisition_cost
        asset.salvage_value asset.useful_life_months.toNat (asset.months_since_capitalization d)
        asset.accumulated_depreciation := by
  rw [FixedAsset.calculate_monthly_depreciation, if_neg (by simp [h.depreciable]), if_neg h.status]

theorem charge_eq_zero_or (asset : FixedAsset) (d : Date) :
    asset.calculate_monthly_depreciation d = 0 ∨ InService asset := by
  rw [FixedAsset.calculate_monthly_depreciation]
  split
  · exact .inl rfl
  · rename_i hdepreciable
    split
    · exact .inl rfl
    · rename_i hstatus
      exact .inr ⟨by simpa using hdepreciable, hstatus⟩

theorem charge_eq_zero_of_remaining (h : remaining asset ≤ 0) (d : Date) :
    asset.calculate_monthly_depreciation d = 0 := by
  rcases charge_eq_zero_or asset d with hzero | hservice
  · exact hzero
  · rw [hservice.charge_eq]
    exact charge_eq_zero (sub_nonpos.mp h)

section Above

/-- What is left is not negative, and an immediate expense is taken at once or not at all. -/
structure Above (asset : FixedAsset) : Prop where
  remaining_nonneg : 0 ≤ remaining asset
  macrs : asset.depreciation_method = .macrs →
    macrs_table_for_life (asset.useful_life_months.toNat / 12) = none
  immediate : asset.depreciation_method = .immediateExpense →
    asset.accumulated_depreciation = 0 ∨ remaining asset = 0

theorem Above.charge_le (h : Above asset) (d : Date) :
    asset.calculate_monthly_depreciation d ≤ remaining asset := by
  rcases h.remaining_nonneg.eq_or_lt with hzero | hpos
  · rw [charge_eq_zero_of_remaining hzero.ge]
    exact h.remaining_nonneg
  · rcases charge_eq_zero_or asset d with hzero | hservice
    · rw [hzero]
      exact h.remaining_nonneg
    · rw [hservice.charge_eq]
      apply charge_le_remaining
      · exact ⟨h.macrs, fun himmediate => (h.immediate himmediate).resolve_right hpos.ne'⟩
      · exact sub_nonneg.mp h.remaining_nonneg

/-- An immediate expense leaves everything or nothing. -/
theorem charge_immediateExpense (h : asset.depreciation_method = .immediateExpense)
    (hfresh : asset.accumulated_depreciation = 0) (d : Date) :
    asset.calculate_monthly_depreciation d = 0 ∨
      asset.calculate_monthly_depreciation d = remaining asset := by
  rcases charge_eq_zero_or asset d with hzero | hservice
  · exact .inl hzero
  · rw [hservice.charge_eq, h, DepreciationMethod.calculate_monthly_depreciation]
    split
    · exact .inl rfl
    · simp only
      split
      · exact .inl rfl
      · split
        · right
          rw [remaining, hfresh, sub_zero]
        · exact .inl rfl

theorem Above.depreciate (h : Above asset) (d : Date) : Above (asset.depreciate d) where
  remaining_nonneg := by
    rw [remaining_depreciate]
    exact sub_nonneg.mpr (h.charge_le d)
  macrs := h.macrs
  immediate himmediate := by
    change asset.depreciation_method = _ at himmediate
    rw [remaining_depreciate]
    rcases h.immediate himmediate with hfresh | hdone
    · rcases charge_immediateExpense himmediate hfresh d with hzero | hall
      · left
        rw [FixedAsset.depreciate, hzero]
        simp only [FixedAsset.apply_depreciation, add_zero]
        exact hfresh
      · right
        rw [hall, sub_self]
    · right
      rw [charge_eq_zero_of_remaining hdone.le, hdone, sub_zero]

theorem Above.depreciateOver (h : Above asset) (dates : List Date) :
    Above (asset.depreciateOver dates) := by
  induction dates generalizing asset with
  | nil => exact h
  | cons d dates ih => exact ih (h.depreciate d)

/-- MACRS by table may go below the salvage value, but not below zero for it. -/
theorem nonneg_macrs (hmethod : asset.depreciation_method = .macrs)
    (h : min 0 asset.salvage_value ≤ asset.acquisition_cost - asset.accumulated_depreciation)
    (dates : List Date) :
    min 0 asset.salvage_value ≤ (asset.depreciateOver dates).acquisition_cost -
      (asset.depreciateOver dates).accumulated_depreciation := by
  induction dates generalizing asset with
  | nil => exact h
  | cons d dates ih =>
      have hcharge : asset.calculate_monthly_depreciation d ≤
          asset.acquisition_cost - asset.accumulated_depreciation - min 0 asset.salvage_value := by
        rcases charge_eq_zero_or asset d with hzero | hservice
        · rw [hzero]
          exact sub_nonneg.mpr h
        · rw [hservice.charge_eq, hmethod]
          exact charge_macrs_le h
      have hnext : min 0 (asset.depreciate d).salvage_value ≤
          (asset.depreciate d).acquisition_cost -
            (asset.depreciate d).accumulated_depreciation := by
        simp only [FixedAsset.depreciate, FixedAsset.apply_depreciation]
        linarith
      exact ih hmethod hnext

end Above

section Completion

/-- A charge that is capped at what is left draws it down. -/
theorem remaining_depreciate_of_min {x : ℚ} (d : Date) (hx : 0 ≤ x) (h : 0 ≤ remaining asset)
    (hcharge : 0 < remaining asset →
      asset.calculate_monthly_depreciation d = min x (remaining asset)) :
    remaining (asset.depreciate d) = deplete (remaining asset) x := by
  rw [remaining_depreciate, deplete]
  rcases h.eq_or_lt with hzero | hpos
  · rw [charge_eq_zero_of_remaining hzero.ge, ← hzero, min_eq_right hx]
  · rw [hcharge hpos]

/-- The same over a run, if the charge before the cap does not depend on what is left. -/
theorem remaining_depreciateOver (method : DepreciationMethod) (life : UInt32)
    (x : FixedAsset → Date → ℚ) (hx : ∀ a d d', x (FixedAsset.depreciate a d) d' = x a d')
    (hcharge : ∀ a d, InService a → a.depreciation_method = method → a.useful_life_months = life →
      0 < remaining a → a.calculate_monthly_depreciation d = min (x a d) (remaining a))
    (hservice : InService asset) (hmethod : asset.depreciation_method = method)
    (hlife : asset.useful_life_months = life)
    (hremaining : 0 ≤ remaining asset) {dates : List Date} (hnonneg : ∀ d ∈ dates, 0 ≤ x asset d) :
    remaining (asset.depreciateOver dates) =
      (dates.map (x asset)).foldl deplete (remaining asset) := by
  induction dates generalizing asset with
  | nil => rfl
  | cons d dates ih =>
      rw [List.forall_mem_cons] at hnonneg
      have hstep := remaining_depreciate_of_min d hnonneg.1 hremaining
        (hcharge asset d hservice hmethod hlife)
      have hsame : x (asset.depreciate d) = x asset := funext fun d' => hx asset d d'
      have hrest : ∀ d' ∈ dates, 0 ≤ x (asset.depreciate d) d' := by
        rw [hsame]
        exact hnonneg.2
      rw [List.map_cons, List.foldl_cons, ← hstep, ← hsame]
      apply ih (hservice.depreciate d) hmethod hlife _ hrest
      rw [hstep]
      exact deplete_nonneg _ _

theorem toNat_ne_zero {life : UInt32} (h : life ≠ 0) : life.toNat ≠ 0 := by
  rwa [← UInt32.toNat_zero, ne_eq, UInt32.toNat_inj]

/-- The charge of a month of straight-line depreciation. -/
def straightLineCharge (asset : FixedAsset) : ℚ :=
  (asset.acquisition_cost - asset.salvage_value) / asset.useful_life_months.toNat

theorem charge_straightLine (hservice : InService asset) (hlife : asset.useful_life_months ≠ 0)
    (hmethod : asset.depreciation_method = .straightLine) (hpos : 0 < remaining asset) (d : Date) :
    asset.calculate_monthly_depreciation d = min (straightLineCharge asset) (remaining asset) := by
  rw [hservice.charge_eq, hmethod, DepreciationMethod.calculate_monthly_depreciation,
    if_neg (toNat_ne_zero hlife)]
  simp only
  rw [if_neg (not_le.mpr (sub_pos.mp hpos))]
  rfl

theorem remaining_straightLine (hservice : InService asset) (hlife : asset.useful_life_months ≠ 0)
    (hmethod : asset.depreciation_method = .straightLine) (hremaining : 0 ≤ remaining asset)
    (haccumulated : 0 ≤ asset.accumulated_depreciation) {dates : List Date}
    (hdates : dates.length = asset.useful_life_months.toNat) :
    remaining (asset.depreciateOver dates) = 0 := by
  have hbase : remaining asset ≤ asset.acquisition_cost - asset.salvage_value := by
    rw [remaining]
    linarith
  have hpos : (0 : ℚ) < asset.useful_life_months.toNat :=
    Nat.cast_pos.mpr (Nat.pos_of_ne_zero (toNat_ne_zero hlife))
  have hcharge : 0 ≤ straightLineCharge asset := div_nonneg (hremaining.trans hbase) hpos.le
  rw [remaining_depreciateOver .straightLine asset.useful_life_months
    (fun a _ => straightLineCharge a) (fun _ _ _ => rfl)
    (fun a d ha hm hl hr => charge_straightLine ha (hl ▸ hlife) hm hr d) hservice hmethod rfl
    hremaining fun _ _ => hcharge]
  apply foldl_deplete_eq_zero _ hremaining
  · rw [List.map_const', List.sum_replicate, hdates, nsmul_eq_mul, straightLineCharge,
      mul_div_cancel₀ _ hpos.ne']
    exact hbase
  · intro c hc
    rw [List.map_const', List.mem_replicate] at hc
    rw [hc.2]
    exact hcharge

section SumOfYears

theorem two_mul_sum_years (n : ℕ) : 2 * (List.range' 1 n).sum = n * (n + 1) := by
  induction n with
  | zero => rfl
  | succ n ih =>
      rw [List.range'_1_concat, List.sum_append, List.sum_singleton, mul_add, ih]
      ring

/-- The sum wraps, but never to zero: of two consecutive numbers one is odd. -/
theorem sumOfYears_pos {n : ℕ} (hpos : 0 < n) (hlt : n < 2 ^ 32) : 0 < sumOfYears n := by
  rw [Nat.pos_iff_ne_zero]
  intro hzero
  obtain ⟨k, hk⟩ := Nat.dvd_of_mod_eq_zero hzero
  have hdvd : 2 ^ 33 ∣ n * (n + 1) := ⟨k, by rw [← two_mul_sum_years, hk]; ring⟩
  rcases Nat.even_or_odd n with heven | hodd
  · have hcoprime : Nat.Coprime (2 ^ 33) (n + 1) :=
      (Nat.coprime_two_left.mpr heven.add_one).pow_left 33
    have hle := Nat.le_of_dvd hpos (hcoprime.dvd_of_dvd_mul_right hdvd)
    omega
  · have hcoprime : Nat.Coprime (2 ^ 33) n := (Nat.coprime_two_left.mpr hodd).pow_left 33
    have hle := Nat.le_of_dvd n.succ_pos (hcoprime.dvd_of_dvd_mul_left hdvd)
    omega

/-- Twelve months count for each year. -/
theorem sum_range_div_twelve (g : ℕ → ℚ) (n : ℕ) :
    ∑ i ∈ Finset.range (12 * n), g (i / 12) = 12 * ∑ j ∈ Finset.range n, g j := by
  induction n with
  | zero => simp
  | succ n ih =>
      have hyear : ∀ i ∈ Finset.range 12, g ((12 * n + i) / 12) = g n := by
        intro i hi
        rw [Finset.mem_range] at hi
        congr 1
        omega
      rw [Nat.mul_succ, Finset.sum_range_add, ih, Finset.sum_congr rfl hyear, Finset.sum_const,
        Finset.card_range, Finset.sum_range_succ, nsmul_eq_mul]
      push_cast
      ring

theorem sum_remaining_years (n : ℕ) :
    ∑ j ∈ Finset.range n, ((n - (j + 1) + 1 : ℕ) : ℚ) = ((List.range' 1 n).sum : ℕ) := by
  rw [← Nat.cast_sum, Nat.cast_inj]
  have hreflect : ∑ j ∈ Finset.range n, (n - (j + 1) + 1) = ∑ j ∈ Finset.range n, (j + 1) := by
    rw [← Finset.sum_range_reflect]
    apply Finset.sum_congr rfl
    intro j hj
    rw [Finset.mem_range] at hj
    omega
  rw [hreflect]
  clear hreflect
  induction n with
  | zero => rfl
  | succ n ih =>
      rw [Finset.sum_range_succ, ih, List.range'_1_concat, List.sum_append, List.sum_singleton,
        Nat.add_comm 1 n]

/-- The charge of a month of sum-of-years depreciation. -/
def sumOfYearsCharge (asset : FixedAsset) (elapsed : ℕ) : ℚ :=
  let years_total := asset.useful_life_months.toNat / 12
  (asset.acquisition_cost - asset.salvage_value) *
    ((years_total - (elapsed / 12 + 1) + 1 : ℕ) / (sumOfYears years_total : ℚ)) / 12

theorem sumOfYears_life_pos {life : UInt32} (h : 12 ≤ life) :
    0 < sumOfYears (life.toNat / 12) := by
  have hle : 12 ≤ life.toNat := UInt32.le_iff_toNat_le.mp h
  have hlt := life.toNat_lt
  exact sumOfYears_pos (by omega) (by omega)

theorem charge_sumOfYearsDigits (hservice : InService asset)
    (hlife : 12 ≤ asset.useful_life_months)
    (hmethod : asset.depreciation_method = .sumOfYearsDigits) (hpos : 0 < remaining asset)
    (d : Date) : asset.calculate_monthly_depreciation d =
      min (sumOfYearsCharge asset (asset.months_since_capitalization d)) (remaining asset) := by
  have hle : 12 ≤ asset.useful_life_months.toNat := UInt32.le_iff_toNat_le.mp hlife
  rw [hservice.charge_eq, hmethod, DepreciationMethod.calculate_monthly_depreciation,
    if_neg (by omega)]
  simp only
  rw [if_neg (not_le.mpr (sub_pos.mp hpos)), if_neg]
  · rfl
  · rintro (hzero | hzero)
    · exact (sumOfYears_life_pos hlife).ne' hzero
    · exact Nat.succ_ne_zero _ hzero

/-- The charges of the whole years are the depreciable base or, when the sum wraps, more. -/
theorem base_le_sum_charges (hlife : 12 ≤ asset.useful_life_months)
    (hbase : 0 ≤ asset.acquisition_cost - asset.salvage_value) :
    asset.acquisition_cost - asset.salvage_value ≤
      ((List.range asset.useful_life_months.toNat).map (sumOfYearsCharge asset)).sum := by
  have hpos : (0 : ℚ) < sumOfYears (asset.useful_life_months.toNat / 12) :=
    Nat.cast_pos.mpr (sumOfYears_life_pos hlife)
  let years_total := asset.useful_life_months.toNat / 12
  let base := asset.acquisition_cost - asset.salvage_value
  let yearly : ℕ → ℚ := fun j => ((years_total - (j + 1) + 1 : ℕ) : ℚ)
  have hcharge : ∀ i, sumOfYearsCharge asset i =
      base / sumOfYears years_total / 12 * yearly (i / 12) := by
    intro i
    simp only [sumOfYearsCharge, base, yearly, years_total]
    ring
  have hsum : ((List.range' 1 years_total).sum : ℚ) ≥ sumOfYears years_total :=
    Nat.cast_le.mpr (Nat.mod_le _ _)
  have hfactor : 0 ≤ base / sumOfYears years_total / 12 :=
    div_nonneg (div_nonneg hbase hpos.le) (by norm_num)
  calc base = base / sumOfYears years_total * sumOfYears years_total :=
        (div_mul_cancel₀ base hpos.ne').symm
    _ ≤ base / sumOfYears years_total * (List.range' 1 years_total).sum :=
        mul_le_mul_of_nonneg_left hsum (div_nonneg hbase hpos.le)
    _ = ∑ i ∈ Finset.range (12 * years_total),
          base / sumOfYears years_total / 12 * yearly (i / 12) := by
        rw [← Finset.mul_sum, sum_range_div_twelve yearly, sum_remaining_years]
        ring
    _ ≤ ∑ i ∈ Finset.range asset.useful_life_months.toNat,
          base / sumOfYears years_total / 12 * yearly (i / 12) := by
        apply Finset.sum_le_sum_of_subset_of_nonneg
        · exact Finset.range_mono (Nat.mul_div_le _ _)
        · intro i _ _
          exact mul_nonneg hfactor (Nat.cast_nonneg _)
    _ = ((List.range asset.useful_life_months.toNat).map (sumOfYearsCharge asset)).sum := by
        rw [List.map_congr_left fun i _ => hcharge i]
        rfl

theorem remaining_sumOfYearsDigits (hservice : InService asset)
    (hlife : 12 ≤ asset.useful_life_months)
    (hmethod : asset.depreciation_method = .sumOfYearsDigits) (hremaining : 0 ≤ remaining asset)
    (haccumulated : 0 ≤ asset.accumulated_depreciation) {dates : List Date}
    (hdates : dates.map asset.months_since_capitalization =
      List.range asset.useful_life_months.toNat) :
    remaining (asset.depreciateOver dates) = 0 := by
  have hbase : remaining asset ≤ asset.acquisition_cost - asset.salvage_value := by
    rw [remaining]
    linarith
  have hcharge : ∀ elapsed, 0 ≤ sumOfYearsCharge asset elapsed := fun elapsed =>
    div_nonneg (mul_nonneg (hremaining.trans hbase)
      (div_nonneg (Nat.cast_nonneg _) (Nat.cast_nonneg _))) (by norm_num)
  have hmonths : dates.map (fun d => sumOfYearsCharge asset (asset.months_since_capitalization d)) =
      (List.range asset.useful_life_months.toNat).map (sumOfYearsCharge asset) := by
    rw [← hdates, List.map_map]
    rfl
  rw [remaining_depreciateOver .sumOfYearsDigits asset.useful_life_months
    (fun a d => sumOfYearsCharge a (a.months_since_capitalization d)) (fun _ _ _ => rfl)
    (fun a d ha hm hl hr => charge_sumOfYearsDigits ha (hl ▸ hlife) hm hr d) hservice hmethod rfl
    hremaining fun _ _ => hcharge _, hmonths]
  apply foldl_deplete_eq_zero _ hremaining
  · exact hbase.trans (base_le_sum_charges hlife (hremaining.trans hbase))
  · intro c hc
    obtain ⟨i, -, rfl⟩ := List.mem_map.mp hc
    exact hcharge i

end SumOfYears

section Degressiv

/-- In the last month of the useful life everything that is left is charged. -/
theorem charge_degressiv_last (hservice : InService asset) (hlife : 12 ≤ asset.useful_life_months)
    (hmethod : asset.depreciation_method = .degressiv) (hremaining : 0 ≤ remaining asset) {d : Date}
    (hlast : asset.months_since_capitalization d + 1 = asset.useful_life_months.toNat) :
    asset.calculate_monthly_depreciation d = remaining asset := by
  have hle : 12 ≤ asset.useful_life_months.toNat := UInt32.le_iff_toNat_le.mp hlife
  rcases hremaining.eq_or_lt with hzero | hpos
  · rw [charge_eq_zero_of_remaining hzero.ge, hzero]
  · have hone : asset.useful_life_months.toNat - asset.months_since_capitalization d = 1 := by omega
    rw [hservice.charge_eq, hmethod, DepreciationMethod.calculate_monthly_depreciation,
      if_neg (by omega)]
    simp only
    rw [if_neg (not_le.mpr (sub_pos.mp hpos)), if_neg (by omega), hone, if_pos Nat.one_pos,
      Nat.cast_one, div_one, min_eq_right (le_max_right _ _)]
    exact max_eq_left hremaining

theorem remaining_degressiv (hservice : InService asset) (hlife : 12 ≤ asset.useful_life_months)
    (hmethod : asset.depreciation_method = .degressiv) (hremaining : 0 ≤ remaining asset)
    {dates : List Date} (hdates : dates.map asset.months_since_capitalization =
      List.range asset.useful_life_months.toNat) :
    remaining (asset.depreciateOver dates) = 0 := by
  have hle : 12 ≤ asset.useful_life_months.toNat := UInt32.le_iff_toNat_le.mp hlife
  have hne : asset.useful_life_months.toNat ≠ 0 := by omega
  obtain ⟨months, hmonths⟩ := Nat.exists_eq_succ_of_ne_zero hne
  rw [hmonths, List.range_succ] at hdates
  obtain ⟨init, lasts, rfl, -, hlasts⟩ := List.map_eq_append_iff.mp hdates
  obtain ⟨last, rfl, hlast⟩ := List.map_eq_singleton_iff.mp hlasts
  have hterms := sameTerms_depreciateOver asset init
  have habove : Above asset := ⟨hremaining, by simp [hmethod], by simp [hmethod]⟩
  have hcharge : (asset.depreciateOver init).calculate_monthly_depreciation last =
      remaining (asset.depreciateOver init) := by
    apply charge_degressiv_last (hservice.depreciateOver init)
    · rw [hterms.useful_life_months]
      exact hlife
    · rw [hterms.depreciation_method, hmethod]
    · exact (habove.depreciateOver init).remaining_nonneg
    · rw [hterms.months_since_capitalization, hterms.useful_life_months, hlast, hmonths]
  rw [FixedAsset.depreciateOver, List.foldl_concat]
  change remaining ((asset.depreciateOver init).depreciate last) = 0
  rw [remaining_depreciate, hcharge, sub_self]

end Degressiv

end Completion

end Runs

/-- Where depreciation leads over the useful life, and how far it goes over any run. -/
structure Depreciates (asset : FixedAsset) : Prop where
  straight_line : InService asset → asset.useful_life_months ≠ 0 →
    asset.depreciation_method = .straightLine →
    ∀ dates, dates.length = asset.useful_life_months.toNat →
      (asset.depreciateOver dates).net_book_value = asset.salvage_value
  by_years : InService asset → 12 ≤ asset.useful_life_months →
    asset.depreciation_method = .sumOfYearsDigits ∨ asset.depreciation_method = .degressiv →
    ∀ dates, dates.map asset.months_since_capitalization =
      List.range asset.useful_life_months.toNat →
      (asset.depreciateOver dates).net_book_value = asset.salvage_value
  above_salvage : LimitedBySalvage asset.depreciation_method asset.useful_life_months.toNat
      asset.accumulated_depreciation →
    ∀ dates, asset.salvage_value ≤ (asset.depreciateOver dates).net_book_value
  above_zero : asset.depreciation_method = .macrs →
    ∀ dates, min 0 asset.salvage_value ≤ (asset.depreciateOver dates).net_book_value

theorem depreciates_of_booked {asset : FixedAsset} (h : Booked asset) : Depreciates asset := by
  have hbooked : asset.net_book_value = remaining asset + asset.salvage_value := by
    rw [h.net_book_value, remaining, sub_add_cancel]
  have hremaining : 0 ≤ remaining asset := by
    rw [remaining, ← h.net_book_value]
    exact sub_nonneg.mpr h.salvage_le
  have hrun : ∀ dates, (asset.depreciateOver dates).net_book_value =
      remaining (asset.depreciateOver dates) + asset.salvage_value := by
    intro dates
    rw [net_book_value_depreciateOver asset hbooked,
      (sameTerms_depreciateOver asset dates).salvage_value]
  constructor
  · intro hservice hlife hmethod dates hdates
    rw [hrun, remaining_straightLine hservice hlife hmethod hremaining h.accumulated_nonneg hdates,
      zero_add]
  · rintro hservice hlife (hmethod | hmethod) dates hdates
    · rw [hrun, remaining_sumOfYearsDigits hservice hlife hmethod hremaining h.accumulated_nonneg
        hdates, zero_add]
    · rw [hrun, remaining_degressiv hservice hlife hmethod hremaining hdates, zero_add]
  · intro hlimited dates
    have habove : Above asset := ⟨hremaining, hlimited.1, fun h => .inl (hlimited.2 h)⟩
    rw [hrun]
    exact le_add_of_nonneg_left (habove.depreciateOver dates).remaining_nonneg
  · intro hmethod dates
    rw [hrun, remaining, (sameTerms_depreciateOver asset dates).salvage_value, sub_add_cancel]
    apply nonneg_macrs hmethod
    rw [← h.net_book_value]
    exact (min_le_right _ _).trans h.salvage_le

section Sample

/-- A vehicle that cost 100 and is worth 50 in the end. -/
def vehicle (method : DepreciationMethod) (life : UInt32) : FixedAsset :=
  (((FixedAsset.new .vehicles (Date.ofYmd 2024 1 15) 100).with_salvage_value
    50).with_depreciation_method method).with_useful_life_months life

/-- The first of January 2024 and of the months after it. -/
def firstOfMonths (months : ℕ) : List Date :=
  (List.range months).map fun i => Date.ofYmd (2024 + i / 12 : ℕ) (i % 12 + 1) 1

theorem booked_vehicle (method : DepreciationMethod) (life : UInt32) :
    Booked (vehicle method life) := by
  constructor
  · simp [vehicle, FixedAsset.new, FixedAsset.with_salvage_value,
      FixedAsset.with_depreciation_method, FixedAsset.with_useful_life_months]
  · exact le_rfl
  · change (50 : ℚ) ≤ 100
    norm_num

theorem depreciates_vehicle :
    ((vehicle .degressiv 17).depreciateOver (firstOfMonths 17)).net_book_value = 50 := by
  apply (depreciates_of_booked (booked_vehicle .degressiv 17)).by_years
  · exact ⟨rfl, by decide⟩
  · decide
  · exact .inr rfl
  · decide

/-- By the table more than half of the cost is gone after 17 months, and a useful life of
less than a year has no year to depreciate in. -/
theorem macrs_below_salvage_and_short_life :
    ((vehicle .macrs 36).depreciateOver (firstOfMonths 17)).net_book_value <
        (vehicle .macrs 36).salvage_value ∧
      ((vehicle .sumOfYearsDigits 6).depreciateOver (firstOfMonths 6)).net_book_value = 100 := by
  decide +kernel

end Sample

end Datasynth.Core.Depreciation
