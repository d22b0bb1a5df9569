import Datasynth.Lib.CivilCalendar
import Datasynth.Lib.HalfEvenRounding
import Datasynth.Lib.StepRuns
import Mathlib.Data.List.Permutation
import Mathlib.Data.Rat.Floor

/-!
Records of fixed assets: the header of an asset, its depreciation areas, and what is recorded in
them.
-/

namespace Datasynth.Subledger.FixedAssetRecords

open Datasynth.Lib.CivilCalendar Datasynth.Lib.HalfEvenRounding

inductive AssetStatus where
  | underConstruction
  | active
  | heldForSale
  | fullyDepreciated
  | retired
  | transferred
deriving DecidableEq, Repr

inductive DepreciationAreaType where
  | book
  | tax
  | group
  | management
  | insurance
deriving DecidableEq, Repr

inductive DepreciationMethod where
  | none
  | straightLine
  | decliningBalance (rate : ℚ)
  | sumOfYearsDigits
  | unitsOfProduction (total_units period_units : UInt32)
deriving DecidableEq

structure DepreciationArea where
  area_type : DepreciationAreaType
  method : DepreciationMethod
  useful_life_months : UInt32
  acquisition_cost : ℚ
  accumulated_depreciation : ℚ
  net_book_value : ℚ
  salvage_value : ℚ
  periods_completed : UInt32
  net_book_value_eq : net_book_value = acquisition_cost - accumulated_depreciation
deriving DecidableEq

namespace DepreciationArea

def new (area_type : DepreciationAreaType) (method : DepreciationMethod)
    (useful_life_months : UInt32) (acquisition_cost : ℚ) : DepreciationArea where
  area_type := area_type
  method := method
  useful_life_months := useful_life_months
  acquisition_cost := acquisition_cost
  accumulated_depreciation := 0
  net_book_value := acquisition_cost
  salvage_value := 0
  periods_completed := 0
  net_book_value_eq := (sub_zero acquisition_cost).symm

variable (area : DepreciationArea)

def with_salvage_value (value : ℚ) : DepreciationArea := { area with salvage_value := value }

def remaining_life_months : UInt32 :=
  if area.periods_completed ≤ area.useful_life_months then
    area.useful_life_months - area.periods_completed
  else 0

def is_fully_depreciated : Bool := area.net_book_value ≤ area.salvage_value

/-- The years of the method of digits are counted in 32 bits, and wrap around. -/
def calculate_monthly_depreciation : ℚ :=
  if area.is_fully_depreciated then 0
  else
    let depreciable_base := area.acquisition_cost - area.salvage_value
    match area.method with
    | .none => 0
    | .straightLine =>
        if 0 < area.useful_life_months then
          roundDp 2 (depreciable_base / area.useful_life_months.toNat)
        else 0
    | .decliningBalance rate => roundDp 2 (area.net_book_value * rate / 12)
    | .sumOfYearsDigits =>
        let remaining_years := area.remaining_life_months / 12
        let total_years := area.useful_life_months / 12
        let sum_of_years := total_years * (total_years + 1) / 2
        if 0 < sum_of_years then
          roundDp 2 (depreciable_base * remaining_years.toNat / sum_of_years.toNat / 12)
        else 0
    | .unitsOfProduction total_units _ =>
        if 0 < total_units then depreciable_base / total_units.toNat / 12 else 0

/-- Depreciation recorded in the area itself. -/
def record (amount : ℚ) : DepreciationArea :=
  { area with
    accumulated_depreciation := area.accumulated_depreciation + amount
    net_book_value := area.acquisition_cost - (area.accumulated_depreciation + amount)
    net_book_value_eq := rfl }

theorem record_zero : area.record 0 = area := by
  obtain ⟨area_type, method, life, cost, accumulated, value, salvage, completed, rfl⟩ := area
  simp [record]

theorem record_record (amount amount' : ℚ) :
    (area.record amount).record amount' = area.record (amount + amount') := by
  simp [record, add_assoc]

@[simp]
theorem record_net_book_value (amount : ℚ) :
    (area.record amount).net_book_value = area.net_book_value - amount := by
  rw [area.net_book_value_eq, sub_sub]
  rfl

theorem calculate_eq_zero (h : area.net_book_value ≤ area.salvage_value) :
    area.calculate_monthly_depreciation = 0 :=
  if_pos (decide_eq_true h)

/-- Of the methods, only that of the declining balance charges less when less is left. -/
theorem calculate_record_eq_iff {amount : ℚ} (hstart : area.salvage_value < area.net_book_value)
    (hleft : area.salvage_value < area.net_book_value - amount) :
    (area.record amount).calculate_monthly_depreciation =
        area.calculate_monthly_depreciation ↔
      ∀ rate, area.method = .decliningBalance rate →
        roundDp 2 ((area.net_book_value - amount) * rate / 12) =
          area.calculate_monthly_depreciation := by
  have hnot : area.is_fully_depreciated = false := decide_eq_false (not_le.mpr hstart)
  have hnot' : (area.record amount).is_fully_depreciated = false := by
    rw [is_fully_depreciated, record_net_book_value]
    exact decide_eq_false (not_le.mpr hleft)
  rw [calculate_monthly_depreciation, calculate_monthly_depreciation, hnot, hnot',
    record_net_book_value]
  cases hmethod : area.method <;> simp [record, hmethod, remaining_life_months]

end DepreciationArea

structure FixedAssetRecord where
  asset_number : String
  company_code : String
  status : AssetStatus
  acquisition_cost : ℚ
  accumulated_depreciation : ℚ
  net_book_value : ℚ
  depreciation_areas : List DepreciationArea
  net_book_value_eq : net_book_value = acquisition_cost - accumulated_depreciation
deriving DecidableEq

/-- The first area of a type. -/
def areaOf (areas : List DepreciationArea) (area_type : DepreciationAreaType) :
    Option DepreciationArea :=
  areas.find? fun area => area.area_type = area_type

def recordInArea (amount : ℚ) (area_type : DepreciationAreaType) :
    List DepreciationArea → List DepreciationArea
  | [] => []
  | area :: areas =>
      if area.area_type = area_type then area.record amount :: areas
      else area :: recordInArea amount area_type areas

namespace FixedAssetRecord

def new (asset_number company_code : String) (acquisition_cost : ℚ) : FixedAssetRecord where
  asset_number := asset_number
  company_code := company_code
  status := .active
  acquisition_cost := acquisition_cost
  accumulated_depreciation := 0
  net_book_value := acquisition_cost
  depreciation_areas := []
  net_book_value_eq := (sub_zero acquisition_cost).symm

variable (asset : FixedAssetRecord)

def add_depreciation_area (area : DepreciationArea) : FixedAssetRecord :=
  { asset with depreciation_areas := asset.depreciation_areas ++ [area] }

def with_standard_depreciation (useful_life_years : UInt32) (method : DepreciationMethod) :
    FixedAssetRecord :=
  (asset.add_depreciation_area
    (.new .book method (useful_life_years * 12) asset.acquisition_cost)).add_depreciation_area
    (.new .tax method (useful_life_years * 12) asset.acquisition_cost)

/-- The header is charged whichever area it is. -/
def record_depreciation (amount : ℚ) (area_type : DepreciationAreaType) : FixedAssetRecord :=
  { asset with
    accumulated_depreciation := asset.accumulated_depreciation + amount
    net_book_value := asset.acquisition_cost - (asset.accumulated_depreciation + amount)
    depreciation_areas := recordInArea amount area_type asset.depreciation_areas
    net_book_value_eq := rfl }

def is_fully_depreciated : Bool := asset.net_book_value ≤ 0

end FixedAssetRecord

section Areas

variable {areas : List DepreciationArea} {area_type area_type' : DepreciationAreaType}
  (amount : ℚ)

theorem areaOf_cons (area : DepreciationArea) (areas : List DepreciationArea)
    (area_type : DepreciationAreaType) :
    areaOf (area :: areas) area_type =
      if area.area_type = area_type then some area else areaOf areas area_type := by
  rw [areaOf, List.find?_cons]
  split
  · rename_i htype
    rw [if_pos (of_decide_eq_true htype)]
  · rename_i htype
    rw [if_neg (of_decide_eq_false htype), areaOf]

/-- Of the areas that can be found, recording changes the one of its type. -/
theorem areaOf_recordInArea_self (areas : List DepreciationArea)
    (area_type : DepreciationAreaType) :
    areaOf (recordInArea amount area_type areas) area_type =
      (areaOf areas area_type).map (·.record amount) := by
  induction areas with
  | nil => rfl
  | cons area areas ih =>
      rw [recordInArea, areaOf_cons]
      split
      · rename_i htype
        rw [areaOf_cons]
        exact if_pos htype
      · rename_i htype
        rw [areaOf_cons, if_neg htype, ih]

theorem areaOf_recordInArea_ne (areas : List DepreciationArea) (hne : area_type' ≠ area_type) :
    areaOf (recordInArea amount area_type areas) area_type' = areaOf areas area_type' := by
  induction areas with
  | nil => rfl
  | cons area areas ih =>
      rw [recordInArea]
      split
      · rename_i htype
        have hother : area.area_type ≠ area_type' := fun h => hne (h.symm.trans htype)
        rw [areaOf_cons, areaOf_cons, if_neg hother]
        exact if_neg hother
      · rw [areaOf_cons, areaOf_cons, ih]

theorem isSome_areaOf_recordInArea (areas : List DepreciationArea)
    (area_type area_type' : DepreciationAreaType) :
    (areaOf (recordInArea amount area_type areas) area_type').isSome =
      (areaOf areas area_type').isSome := by
  rcases eq_or_ne area_type' area_type with rfl | hne
  · rw [areaOf_recordInArea_self, Option.isSome_map]
  · rw [areaOf_recordInArea_ne amount areas hne]

theorem recordInArea_zero (areas : List DepreciationArea) (area_type : DepreciationAreaType) :
    recordInArea 0 area_type areas = areas := by
  induction areas with
  | nil => rfl
  | cons area areas ih => rw [recordInArea, area.record_zero, ih, ite_self]

theorem recordInArea_recordInArea (amount' : ℚ) (areas : List DepreciationArea)
    (area_type : DepreciationAreaType) :
    recordInArea amount' area_type (recordInArea amount area_type areas) =
      recordInArea (amount + amount') area_type areas := by
  induction areas with
  | nil => rfl
  | cons area areas ih =>
      rw [recordInArea, recordInArea]
      split
      · rename_i htype
        rw [recordInArea, if_pos (show (area.record amount).area_type = area_type from htype),
          area.record_record]
      · rename_i htype
        rw [recordInArea, if_neg htype, ih]

end Areas

namespace FixedAssetRecord

variable (asset : FixedAssetRecord)

theorem record_depreciation_zero (area_type : DepreciationAreaType) :
    asset.record_depreciation 0 area_type = asset := by
  obtain ⟨asset_number, company_code, status, cost, accumulated, value, areas, rfl⟩ := asset
  simp [record_depreciation, recordInArea_zero]

@[simp]
theorem record_net_book_value (amount : ℚ) (area_type : DepreciationAreaType) :
    (asset.record_depreciation amount area_type).net_book_value =
      asset.net_book_value - amount := by
  rw [asset.net_book_value_eq, sub_sub]
  rfl

end FixedAssetRecord

end Datasynth.Subledger.FixedAssetRecords

/-!
Whether the header of a fixed asset shows its book area, over depreciation recorded in any of
its areas.
-/

namespace Datasynth.Subledger.HeaderMirror

open Datasynth.Lib.StepRuns Datasynth.Subledger.FixedAssetRecords

/-- An amount, and the area in which it is recorded. -/
abbrev Recording := ℚ × DepreciationAreaType

def record (asset : FixedAssetRecord) (recording : Recording) : FixedAssetRecord :=
  asset.record_depreciation recording.1 recording.2

/-- The header shows what stands in the book area. -/
def Mirrors (asset : FixedAssetRecord) : Prop :=
  ∀ book, areaOf asset.depreciation_areas .book = some book →
    asset.accumulated_depreciation = book.accumulated_depreciation ∧
      asset.net_book_value = book.net_book_value

/-- What is recorded in the tax or the group area leaves the header as it was. -/
def SparesHeader (asset : FixedAssetRecord) (recording : Recording) : Prop :=
  recording.2 = .tax ∨ recording.2 = .group →
    (record asset recording).accumulated_depreciation = asset.accumulated_depreciation ∧
      (record asset recording).net_book_value = asset.net_book_value

/-- Nothing is charged outside the book area.  Areas other than tax and group count only beside a
book area. -/
def BookOnly (asset : FixedAssetRecord) (recording : Recording) : Prop :=
  recording.2 = .book ∨ recording.1 = 0 ∨
    (areaOf asset.depreciation_areas .book = none ∧ recording.2 ≠ .tax ∧ recording.2 ≠ .group)

variable {asset : FixedAssetRecord}

theorem bookOnly_record (asset : FixedAssetRecord) (recording recording' : Recording) :
    BookOnly (record asset recording) recording' ↔ BookOnly asset recording' := by
  have hbook : areaOf (record asset recording).depreciation_areas .book = none ↔
      areaOf asset.depreciation_areas .book = none := by
    rw [← Option.isNone_iff_eq_none, ← Option.isNone_iff_eq_none, ← Option.not_isSome,
      ← Option.not_isSome]
    rw [record, FixedAssetRecord.record_depreciation, isSome_areaOf_recordInArea]
  rw [BookOnly, BookOnly, hbook]

/-- The header is spared exactly by recording nothing. -/
theorem sparesHeader_iff (asset : FixedAssetRecord) (recording : Recording) :
    SparesHeader asset recording ↔
      (recording.2 = .tax ∨ recording.2 = .group → recording.1 = 0) := by
  rw [SparesHeader, asset.net_book_value_eq]
  simp [record, FixedAssetRecord.record_depreciation]

/-- A header that shows the book area has its acquisition cost. -/
theorem Mirrors.acquisition_cost_eq (h : Mirrors asset) {book : DepreciationArea}
    (hbook : areaOf asset.depreciation_areas .book = some book) :
    asset.acquisition_cost = book.acquisition_cost := by
  obtain ⟨haccumulated, hvalue⟩ := h book hbook
  rw [asset.net_book_value_eq, book.net_book_value_eq, haccumulated] at hvalue
  exact sub_left_injective hvalue

theorem Mirrors.record_book (h : Mirrors asset) (amount : ℚ) :
    Mirrors (record asset (amount, .book)) := by
  intro book hbook
  rw [record, FixedAssetRecord.record_depreciation, areaOf_recordInArea_self] at hbook
  obtain ⟨area, harea, rfl⟩ := Option.map_eq_some_iff.mp hbook
  have haccumulated := (h area harea).1
  have hcost := h.acquisition_cost_eq harea
  constructor
  · exact congrArg (· + amount) haccumulated
  · change asset.acquisition_cost - (asset.accumulated_depreciation + amount) =
      area.acquisition_cost - (area.accumulated_depreciation + amount)
    rw [haccumulated, hcost]

/-- In another area, nothing may be recorded, unless there is no book area to show. -/
theorem Mirrors.record_other_iff (h : Mirrors asset) {area_type : DepreciationAreaType}
    (hother : area_type ≠ .book) (amount : ℚ) :
    Mirrors (record asset (amount, area_type)) ↔
      amount = 0 ∨ areaOf asset.depreciation_areas .book = none := by
  have hareas : areaOf (record asset (amount, area_type)).depreciation_areas .book =
      areaOf asset.depreciation_areas .book :=
    areaOf_recordInArea_ne amount asset.depreciation_areas hother.symm
  rw [Mirrors, hareas]
  change (∀ book, areaOf asset.depreciation_areas .book = some book →
    asset.accumulated_depreciation + amount = book.accumulated_depreciation ∧
      asset.acquisition_cost - (asset.accumulated_depreciation + amount) =
        book.net_book_value) ↔ _
  constructor
  · intro hmirrors
    cases hbook : areaOf asset.depreciation_areas .book with
    | none => exact Or.inr rfl
    | some book =>
        have hafter := (hmirrors book hbook).1
        rw [(h book hbook).1] at hafter
        exact Or.inl (add_eq_left.mp hafter)
  · rintro (rfl | hnone) book hbook
    · rw [add_zero, ← asset.net_book_value_eq]
      exact h book hbook
    · rw [hnone] at hbook
      cases hbook

/-- Where the header shows the book area, the recordings that keep it so and spare the header
are those in the book. -/
theorem Mirrors.record_iff (h : Mirrors asset) (recording : Recording) :
    Mirrors (record asset recording) ∧ SparesHeader asset recording ↔
      BookOnly asset recording := by
  obtain ⟨amount, area_type⟩ := recording
  rw [sparesHeader_iff, BookOnly]
  rcases eq_or_ne area_type .book with rfl | hother
  · exact iff_of_true ⟨h.record_book amount, by simp⟩ (Or.inl rfl)
  · rw [h.record_other_iff hother]
    simp only [hother, false_or]
    tauto

/-- The header shows the book area in every state, and is spared by tax and group areas, exactly
if it does at first and nothing is recorded outside the book area. -/
theorem header_mirrors_book_iff (asset : FixedAssetRecord) (recordings : List Recording) :
    AlongRun record Mirrors asset recordings ∧ EveryStep record SparesHeader asset recordings ↔
      Mirrors asset ∧ ∀ recording ∈ recordings, BookOnly asset recording := by
  rw [run_keeps_iff fun asset recording h => h.record_iff recording,
    everyStep_iff_forall bookOnly_record]

/-- An asset with the book and the tax area that the generator gives it. -/
def machine : FixedAssetRecord :=
  (FixedAssetRecord.new "ASSET001" "1000" 100000).with_standard_depreciation 10 .straightLine

/-- Depreciation for tax purposes is charged to the header. -/
theorem tax_depreciation_reaches_header :
    ¬ ∀ (asset : FixedAssetRecord) (recordings : List Recording), Mirrors asset →
      AlongRun record Mirrors asset recordings ∧
        EveryStep record SparesHeader asset recordings := by
  intro h
  have hmirrors : Mirrors machine := by
    rintro book ⟨⟩
    exact ⟨rfl, rfl⟩
  have hkept := (h machine [(833.33, .tax)] hmirrors).2 [] (833.33, .tax) List.prefix_rfl
  exact absurd (hkept (Or.inl rfl)).1 (by decide_cbv)

end Datasynth.Subledger.HeaderMirror
