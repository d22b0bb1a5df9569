import Datasynth.Lib.CivilCalendar
import Mathlib.Algebra.Order.Ring.Rat
import Mathlib.Data.Rat.Defs
import Mathlib.Tactic.Linarith

/-! Ownership-change events of a subsidiary within a reporting period. -/

namespace Datasynth.Core.OwnershipChanges

open Datasynth.Lib.CivilCalendar

inductive OwnershipChangeType where
  | controlGained
  | controlIncreased
  | controlDecreased
  | controlLost
deriving DecidableEq, Repr

inductive NciMeasurementMethod where
  | proportionate
  | fullGoodwill
deriving DecidableEq, Repr, Inhabited

inductive HyperinflationStatus where
  | notHyperinflationary
  | hyperinflationary
deriving DecidableEq, Repr, Inhabited

structure OwnershipChangeEvent where
  entity_code : String
  parent_entity_code : String
  event_type : OwnershipChangeType
  effective_date : Date
  ownership_percent_before : ℚ
  ownership_percent_after : ℚ
  previously_held_interest_carrying : Option ℚ
  previously_held_interest_fair_value : Option ℚ
  consideration_paid_or_received : ℚ
  acquisition_date_nci_fair_value : Option ℚ
  nci_measurement_method : NciMeasurementMethod
  currency : String
deriving DecidableEq

end Datasynth.Core.OwnershipChanges

/-!
Cash-generating units, the goodwill allocated to them, and the single-period
impairment test that charges a loss to goodwill first.
-/

namespace Datasynth.Core.CashGeneratingUnits

open Datasynth.Lib.CivilCalendar

structure CashGeneratingUnit where
  cgu_id : String
  name : String
  member_entity_codes : List String
  segment_code : Option String
deriving DecidableEq

def CashGeneratingUnit.new (cgu_id name : String) (member_entity_codes : List String) :
    CashGeneratingUnit :=
  ⟨cgu_id, name, member_entity_codes, none⟩

def CashGeneratingUnit.with_segment (cgu : CashGeneratingUnit) (segment_code : String) :
    CashGeneratingUnit :=
  { cgu with segment_code := some segment_code }

structure GoodwillAllocation where
  cgu_id : String
  business_combination_id : String
  goodwill_amount : ℚ
  allocation_date : Date
deriving DecidableEq

structure CguImpairmentTest where
  cgu_id : String
  test_date : Date
  allocated_goodwill : ℚ
  other_carrying : ℚ
  fair_value_less_costs : ℚ
  value_in_use : ℚ
  currency : String
deriving DecidableEq

structure CguImpairmentResult where
  cgu_id : String
  test_date : Date
  carrying_total : ℚ
  recoverable_amount : ℚ
  impairment_loss_total : ℚ
  impairment_loss_to_goodwill : ℚ
  impairment_loss_to_other_assets : ℚ
  currency : String
deriving DecidableEq

def CguImpairmentTest.run (test : CguImpairmentTest) : CguImpairmentResult :=
  let carrying_total := test.allocated_goodwill + test.other_carrying
  let recoverable_amount := max test.fair_value_less_costs test.value_in_use
  let impairment_loss_total := max (carrying_total - recoverable_amount) 0
  let impairment_loss_to_goodwill := min impairment_loss_total test.allocated_goodwill
  let impairment_loss_to_other_assets := impairment_loss_total - impairment_loss_to_goodwill
  { cgu_id := test.cgu_id
    test_date := test.test_date
    carrying_total
    recoverable_amount
    impairment_loss_total
    impairment_loss_to_goodwill
    impairment_loss_to_other_assets
    currency := test.currency }

def CguImpairmentTest.shortfall (test : CguImpairmentTest) : ℚ :=
  max (test.allocated_goodwill + test.other_carrying -
    max test.fair_value_less_costs test.value_in_use) 0

/-- A test on non-negative goodwill, other assets and recoverable amounts. -/
structure CguImpairmentTest.WellFormed (test : CguImpairmentTest) : Prop where
  allocated_goodwill_nonneg : 0 ≤ test.allocated_goodwill
  other_carrying_nonneg : 0 ≤ test.other_carrying
  recoverable_nonneg : 0 ≤ max test.fair_value_less_costs test.value_in_use

/-- The loss goes to goodwill first, the rest to the other assets, and both parts
stay within what they are charged to. -/
structure SplitsLoss (goodwill other_carrying : ℚ) (result : CguImpairmentResult) : Prop where
  goodwill_first :
    result.impairment_loss_to_goodwill = min result.impairment_loss_total goodwill
  goodwill_nonneg : 0 ≤ result.impairment_loss_to_goodwill
  other_nonneg : 0 ≤ result.impairment_loss_to_other_assets
  other_le : result.impairment_loss_to_other_assets ≤ other_carrying
  parts_sum : result.impairment_loss_to_goodwill + result.impairment_loss_to_other_assets =
    result.impairment_loss_total

theorem run_impairment_loss_to_goodwill (test : CguImpairmentTest) :
    test.run.impairment_loss_to_goodwill = min test.shortfall test.allocated_goodwill := rfl

theorem splitsLoss_run {test : CguImpairmentTest} (h : test.WellFormed) :
    SplitsLoss test.allocated_goodwill test.other_carrying test.run := by
  have hloss : (0 : ℚ) ≤ test.shortfall := le_max_right _ _
  have hcap : test.shortfall ≤ test.allocated_goodwill + test.other_carrying := by
    have hnonneg := h.allocated_goodwill_nonneg
    have hother := h.other_carrying_nonneg
    have hrecoverable := h.recoverable_nonneg
    exact max_le (by linarith) (by linarith)
  have hparts : test.run.impairment_loss_to_other_assets =
      test.shortfall - min test.shortfall test.allocated_goodwill := rfl
  refine ⟨rfl, ?_, ?_, ?_, ?_⟩
  · exact le_min hloss h.allocated_goodwill_nonneg
  · rw [hparts]
    exact sub_nonneg.mpr (min_le_left _ _)
  · rw [hparts]
    rcases le_total test.shortfall test.allocated_goodwill with hle | hle
    · rw [min_eq_left hle, sub_self]
      exact h.other_carrying_nonneg
    · rw [min_eq_right hle]
      linarith
  · exact add_sub_cancel _ _

end Datasynth.Core.CashGeneratingUnits
