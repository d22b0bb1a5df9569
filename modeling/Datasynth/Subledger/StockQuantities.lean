import Datasynth.Lib.CivilCalendar
import Datasynth.Lib.HalfEvenRounding
import Datasynth.Lib.StepRuns
import Mathlib.Data.List.Permutation
import Mathlib.Data.Rat.Floor
import Mathlib.Tactic.Linarith

/-!
The position of a material at a storage location: its quantities and its value.
-/

namespace Datasynth.Subledger.InventoryPositions

open Datasynth.Lib.CivilCalendar Datasynth.Lib.HalfEvenRounding

inductive ValuationMethod where
  | standardCost
  | movingAverage
  | fifo
  | lifo
deriving DecidableEq, Repr

inductive StockStatus where
  | normal
  | belowReorder
  | belowSafety
  | outOfStock
  | overMax
  | obsolete
deriving DecidableEq, Repr

structure PositionValuation where
  method : ValuationMethod
  standard_cost : ℚ
  unit_cost : ℚ
  total_value : ℚ
  price_variance : ℚ
deriving DecidableEq

namespace PositionValuation

def default : PositionValuation := ⟨.standardCost, 0, 0, 0, 0⟩

variable (valuation : PositionValuation)

/-- The quantity that a moving average takes to be in stock before a receipt. -/
def existing_qty : ℚ :=
  if 0 < valuation.unit_cost then valuation.total_value / valuation.unit_cost else 0

def update_on_receipt (receipt_qty cost : ℚ) : PositionValuation :=
  match valuation.method with
  | .standardCost =>
      let standard_cost := receipt_qty * valuation.standard_cost
      { valuation with
        price_variance := valuation.price_variance + (cost - standard_cost)
        total_value := valuation.total_value + standard_cost }
  | .movingAverage =>
      let new_qty := valuation.existing_qty + receipt_qty
      let total_value := valuation.total_value + cost
      { valuation with
        total_value := total_value
        unit_cost := if 0 < new_qty then roundDp 4 (total_value / new_qty)
          else valuation.unit_cost }
  | .fifo | .lifo => { valuation with total_value := valuation.total_value + cost }

/-- The cost of the issue, and the valuation after it. -/
def calculate_issue_cost (quantity : ℚ) : ℚ × PositionValuation :=
  let cost := quantity * valuation.unit_cost
  (cost, { valuation with total_value := max (valuation.total_value - cost) 0 })

end PositionValuation

structure InventoryPosition where
  quantity_on_hand : ℚ
  quantity_reserved : ℚ
  quantity_available : ℚ
  quantity_in_inspection : ℚ
  quantity_blocked : ℚ
  valuation : PositionValuation
  last_movement_date : Option Date
  reorder_point : Option ℚ
  safety_stock : Option ℚ
  status : StockStatus
deriving DecidableEq

namespace InventoryPosition

def new : InventoryPosition where
  quantity_on_hand := 0
  quantity_reserved := 0
  quantity_available := 0
  quantity_in_inspection := 0
  quantity_blocked := 0
  valuation := .default
  last_movement_date := none
  reorder_point := none
  safety_stock := none
  status := .normal

variable (position : InventoryPosition)

def calculate_available : InventoryPosition :=
  { position with
    quantity_available := position.quantity_on_hand - position.quantity_reserved -
      position.quantity_in_inspection - position.quantity_blocked }

def stockStatus : StockStatus :=
  if position.quantity_on_hand ≤ 0 then .outOfStock
  else
    match position.safety_stock with
    | some safety =>
        if position.quantity_on_hand ≤ safety then .belowSafety
        else
          match position.reorder_point with
          | some reorder => if position.quantity_on_hand ≤ reorder then .belowReorder else .normal
          | none => .normal
    | none => if 0 < position.quantity_on_hand then .normal else .outOfStock

def update_status : InventoryPosition := { position with status := position.stockStatus }

def add_quantity (quantity cost : ℚ) (date : Date) : InventoryPosition :=
  { position with
    quantity_on_hand := position.quantity_on_hand + quantity
    valuation := position.valuation.update_on_receipt quantity cost
    last_movement_date := some date }.calculate_available.update_status

/-- The cost of what is removed, unless it is not available. -/
def remove_quantity (quantity : ℚ) (date : Date) : Option ℚ × InventoryPosition :=
  if position.quantity_available < quantity then (none, position)
  else
    let issue := position.valuation.calculate_issue_cost quantity
    (some issue.1,
      { position with
        quantity_on_hand := position.quantity_on_hand - quantity
        valuation := issue.2
        last_movement_date := some date }.calculate_available.update_status)

def reserve (quantity : ℚ) : Bool × InventoryPosition :=
  if position.quantity_available < quantity then (false, position)
  else
    (true,
      { position with
        quantity_reserved := position.quantity_reserved + quantity }.calculate_available)

def release_reservation (quantity : ℚ) : InventoryPosition :=
  { position with
    quantity_reserved := max (position.quantity_reserved - quantity) 0 }.calculate_available

/-- Blocks without asking what is available. -/
def block (quantity : ℚ) : InventoryPosition :=
  { position with quantity_blocked := position.quantity_blocked + quantity }.calculate_available

def unblock (quantity : ℚ) : InventoryPosition :=
  { position with
    quantity_blocked := max (position.quantity_blocked - quantity) 0 }.calculate_available

end InventoryPosition

end Datasynth.Subledger.InventoryPositions

/-!
What is available of a material, over any operations on its position.
-/

namespace Datasynth.Subledger.StockQuantities

open Datasynth.Lib.CivilCalendar Datasynth.Lib.StepRuns Datasynth.Subledger.InventoryPositions

inductive StockOperation where
  | add (quantity cost : ℚ) (date : Date)
  | remove (quantity : ℚ) (date : Date)
  | reserve (quantity : ℚ)
  | release (quantity : ℚ)
  | block (quantity : ℚ)
  | unblock (quantity : ℚ)
deriving DecidableEq

/-- Whether the operation reports success, and the position after it. -/
def run (position : InventoryPosition) : StockOperation → Bool × InventoryPosition
  | .add quantity cost date => (true, position.add_quantity quantity cost date)
  | .remove quantity date =>
      let removed := position.remove_quantity quantity date
      (removed.1.isSome, removed.2)
  | .reserve quantity => position.reserve quantity
  | .release quantity => (true, position.release_reservation quantity)
  | .block quantity => (true, position.block quantity)
  | .unblock quantity => (true, position.unblock quantity)

def step (position : InventoryPosition) (operation : StockOperation) : InventoryPosition :=
  (run position operation).2

/-- What is on hand and neither reserved, nor in inspection, nor blocked. -/
def free (position : InventoryPosition) : ℚ :=
  position.quantity_on_hand - position.quantity_reserved - position.quantity_in_inspection -
    position.quantity_blocked

/-- What is available is what is free, and that is not negative. -/
structure Available (position : InventoryPosition) : Prop where
  eq_free : position.quantity_available = free position
  nonneg : 0 ≤ position.quantity_available

/-- An operation that reports failure leaves the position unchanged. -/
def FailureLeaves (position : InventoryPosition) (operation : StockOperation) : Prop :=
  (run position operation).1 = false → step position operation = position

/-- The operation takes no more than what is available.  Removing and reserving look for
themselves; taking back a negative receipt or block, or releasing less than nothing, would not. -/
def TakesAvailable (position : InventoryPosition) : StockOperation → Prop
  | .add quantity _ _ => -quantity ≤ position.quantity_available
  | .remove _ _ => True
  | .reserve _ => True
  | .release quantity =>
      max (position.quantity_reserved - quantity) 0 - position.quantity_reserved ≤
        position.quantity_available
  | .block quantity => quantity ≤ position.quantity_available
  | .unblock quantity =>
      max (position.quantity_blocked - quantity) 0 - position.quantity_blocked ≤
        position.quantity_available

variable {position : InventoryPosition} {operation : StockOperation}

theorem failureLeaves (position : InventoryPosition) (operation : StockOperation) :
    FailureLeaves position operation := by
  intro hfailed
  cases operation with
  | add quantity cost date => cases hfailed
  | remove quantity date =>
      rw [run, InventoryPosition.remove_quantity] at hfailed
      rw [step, run, InventoryPosition.remove_quantity]
      split at hfailed
      · rename_i hover
        rw [if_pos hover]
      · cases hfailed
  | reserve quantity =>
      rw [run, InventoryPosition.reserve] at hfailed
      rw [step, run, InventoryPosition.reserve]
      split at hfailed
      · rename_i hover
        rw [if_pos hover]
      · cases hfailed
  | release quantity => cases hfailed
  | block quantity => cases hfailed
  | unblock quantity => cases hfailed

/-- What is recalculated is what is free. -/
theorem available_of_free {taken : ℚ} (h : Available position) {after : InventoryPosition}
    (hafter : after.quantity_available = free after)
    (htaken : free after = free position - taken) :
    Available after ↔ taken ≤ position.quantity_available := by
  constructor
  · intro hav
    have hnonneg := hav.nonneg
    rw [hafter, htaken, ← h.eq_free] at hnonneg
    linarith
  · intro hle
    refine ⟨hafter, ?_⟩
    rw [hafter, htaken, ← h.eq_free]
    linarith

theorem free_add_quantity (position : InventoryPosition) (quantity cost : ℚ) (date : Date) :
    free (position.add_quantity quantity cost date) = free position - -quantity := by
  simp only [free, InventoryPosition.add_quantity, InventoryPosition.update_status,
    InventoryPosition.calculate_available]
  ring

theorem free_release_reservation (position : InventoryPosition) (quantity : ℚ) :
    free (position.release_reservation quantity) =
      free position -
        (max (position.quantity_reserved - quantity) 0 - position.quantity_reserved) := by
  simp only [free, InventoryPosition.release_reservation, InventoryPosition.calculate_available]
  ring

theorem free_block (position : InventoryPosition) (quantity : ℚ) :
    free (position.block quantity) = free position - quantity := by
  simp only [free, InventoryPosition.block, InventoryPosition.calculate_available]
  ring

theorem free_unblock (position : InventoryPosition) (quantity : ℚ) :
    free (position.unblock quantity) =
      free position -
        (max (position.quantity_blocked - quantity) 0 - position.quantity_blocked) := by
  simp only [free, InventoryPosition.unblock, InventoryPosition.calculate_available]
  ring

/-- Removing checks that what it takes is available. -/
theorem Available.remove_quantity (h : Available position) (quantity : ℚ) (date : Date) :
    Available (position.remove_quantity quantity date).2 := by
  rw [InventoryPosition.remove_quantity]
  split
  · exact h
  · rename_i hover
    refine (available_of_free h rfl ?_).mpr (not_lt.mp hover)
    simp only [free, InventoryPosition.update_status, InventoryPosition.calculate_available]
    ring

/-- So does reserving. -/
theorem Available.reserve (h : Available position) (quantity : ℚ) :
    Available (position.reserve quantity).2 := by
  rw [InventoryPosition.reserve]
  split
  · exact h
  · rename_i hover
    refine (available_of_free h rfl ?_).mpr (not_lt.mp hover)
    simp only [free, InventoryPosition.calculate_available]
    ring

theorem Available.step_iff (h : Available position) (operation : StockOperation) :
    Available (step position operation) ↔ TakesAvailable position operation := by
  cases operation with
  | add quantity cost date =>
      exact available_of_free h rfl (free_add_quantity position quantity cost date)
  | remove quantity date => exact iff_of_true (h.remove_quantity quantity date) trivial
  | reserve quantity => exact iff_of_true (h.reserve quantity) trivial
  | release quantity =>
      exact available_of_free h rfl (free_release_reservation position quantity)
  | block quantity => exact available_of_free h rfl (free_block position quantity)
  | unblock quantity => exact available_of_free h rfl (free_unblock position quantity)

/-- What is available is right and never negative, and failures change nothing, exactly if it is
so at first and every operation takes no more than what is available. -/
theorem availability_iff (position : InventoryPosition) (operations : List StockOperation) :
    AlongRun step Available position operations ∧
        EveryStep step FailureLeaves position operations ↔
      Available position ∧ EveryStep step TakesAvailable position operations := by
  apply run_keeps_iff
  intro position operation h
  rw [and_iff_left (failureLeaves position operation)]
  exact h.step_iff operation

theorem available_new : Available .new := by
  refine ⟨?_, le_refl 0⟩
  simp [free, InventoryPosition.new]

/-- Ten pieces are in stock, and twelve are blocked. -/
theorem blocking_more_than_available :
    ¬ ∀ (position : InventoryPosition) (operations : List StockOperation), Available position →
      AlongRun step Available position operations ∧
        EveryStep step FailureLeaves position operations := by
  intro h
  have hblocked := (h .new [.add 10 100 ⟨0⟩, .block 12] available_new).1.finish.nonneg
  exact absurd hblocked (by decide_cbv)

end Datasynth.Subledger.StockQuantities
