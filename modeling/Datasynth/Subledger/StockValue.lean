import Datasynth.Lib.StepRuns
import Datasynth.Subledger.StockQuantities
import Mathlib.Tactic.Linarith

/-!
What the stock of a position is worth, against the value received and the cost of issues.
-/

namespace Datasynth.Subledger.StockValue

open Datasynth.Lib.CivilCalendar Datasynth.Lib.HalfEvenRounding Datasynth.Lib.StepRuns
open Datasynth.Subledger.InventoryPositions

inductive StockMovement where
  | receipt (quantity cost : ℚ) (date : Date)
  | issue (quantity : ℚ) (date : Date)
deriving DecidableEq

/-- A position, the value received into it, and the cost of the issues from it. -/
structure ValueHistory where
  position : InventoryPosition
  received : ℚ
  issued : ℚ
deriving DecidableEq

/-- What a receipt is valued at: standard costs leave the rest to the price variance. -/
def receivedValue (valuation : PositionValuation) (quantity cost : ℚ) : ℚ :=
  if valuation.method = .standardCost then quantity * valuation.standard_cost else cost

/-- The history of a position that starts with the value that it has. -/
def ValueHistory.start (position : InventoryPosition) : ValueHistory :=
  ⟨position, position.valuation.total_value, 0⟩

def ValueHistory.step (history : ValueHistory) : StockMovement → ValueHistory
  | .receipt quantity cost date =>
      { history with
        position := history.position.add_quantity quantity cost date
        received := history.received + receivedValue history.position.valuation quantity cost }
  | .issue quantity date =>
      match history.position.remove_quantity quantity date with
      | (none, position) => { history with position := position }
      | (some cost, position) =>
          { history with position := position, issued := history.issued + cost }

/-- The stock is worth what was received less what was issued, and is not worth less than
nothing while there is any. -/
structure Worth (history : ValueHistory) : Prop where
  conserved : history.position.valuation.total_value = history.received - history.issued
  nonneg : 0 ≤ history.position.quantity_on_hand → 0 ≤ history.position.valuation.total_value

/-- After a receipt, a moving average is the value over the quantity on hand, to four decimals. -/
def AverageOfStock (history : ValueHistory) (movement : StockMovement) : Prop :=
  ∀ quantity cost date, movement = .receipt quantity cost date →
    history.position.valuation.method = .movingAverage →
      let position := history.position.add_quantity quantity cost date
      position.quantity_on_hand ≠ 0 →
        position.valuation.unit_cost =
          roundDp 4 (position.valuation.total_value / position.quantity_on_hand)

/-- The value is there for the movement to take: that of an issue at the unit cost, and that of a
receipt of negative value, if it leaves any stock. -/
def Covered (history : ValueHistory) : StockMovement → Prop
  | .receipt quantity cost _ =>
      0 ≤ history.position.quantity_on_hand + quantity →
        -receivedValue history.position.valuation quantity cost ≤
          history.position.valuation.total_value
  | .issue quantity _ =>
      quantity ≤ history.position.quantity_available →
        quantity * history.position.valuation.unit_cost ≤
          history.position.valuation.total_value

/-- What a moving average takes for the quantity before a receipt is the quantity on hand, and
the receipt does not leave less than nothing. -/
def KnowsStock (history : ValueHistory) : StockMovement → Prop
  | .receipt quantity _ _ =>
      history.position.valuation.method = .movingAverage →
        history.position.valuation.existing_qty = history.position.quantity_on_hand ∧
          0 ≤ history.position.quantity_on_hand + quantity
  | .issue _ _ => True

variable {history : ValueHistory}

/-- Every method adds the value received. -/
theorem total_value_update_on_receipt (valuation : PositionValuation) (quantity cost : ℚ) :
    (valuation.update_on_receipt quantity cost).total_value =
      valuation.total_value + receivedValue valuation quantity cost := by
  rw [PositionValuation.update_on_receipt, receivedValue]
  split
  · rename_i hmethod
    rw [if_pos hmethod]
  · rename_i hmethod
    rw [if_neg (by rw [hmethod]; decide)]
  · rename_i hmethod
    rw [if_neg (by rw [hmethod]; decide)]
  · rename_i hmethod
    rw [if_neg (by rw [hmethod]; decide)]

theorem Worth.receipt_iff (h : Worth history) (quantity cost : ℚ) (date : Date) :
    Worth (history.step (.receipt quantity cost date)) ↔
      Covered history (.receipt quantity cost date) := by
  have hvalue : (history.step (.receipt quantity cost date)).position.valuation.total_value = _ :=
    total_value_update_on_receipt history.position.valuation quantity cost
  constructor
  · intro hworth hstock
    have hnonneg := hworth.nonneg hstock
    rw [hvalue] at hnonneg
    exact neg_le_iff_add_nonneg.mpr hnonneg
  · intro hcovered
    refine ⟨?_, fun hstock => ?_⟩
    · rw [hvalue, h.conserved]
      exact (add_sub_right_comm _ _ _).symm
    · rw [hvalue]
      exact neg_le_iff_add_nonneg.mp (hcovered hstock)

/-- An issue at more than the value that is there loses the difference. -/
theorem Worth.issue_iff (h : Worth history) (quantity : ℚ) (date : Date) :
    Worth (history.step (.issue quantity date)) ↔ Covered history (.issue quantity date) := by
  by_cases hover : history.position.quantity_available < quantity
  · rw [ValueHistory.step, InventoryPosition.remove_quantity, if_pos hover]
    exact iff_of_true h fun hle => absurd hle (not_le.mpr hover)
  · rw [ValueHistory.step, InventoryPosition.remove_quantity, if_neg hover, Covered,
      imp_iff_right (not_lt.mp hover)]
    have hconserved := h.conserved
    constructor
    · intro hworth
      have hafter := hworth.conserved
      change max _ 0 = history.received -
        (history.issued + quantity * history.position.valuation.unit_cost) at hafter
      rw [← sub_sub, ← hconserved, max_eq_left_iff] at hafter
      exact sub_nonneg.mp hafter
    · intro hcovered
      refine ⟨?_, fun _ => le_max_right _ 0⟩
      change max _ 0 = history.received -
        (history.issued + quantity * history.position.valuation.unit_cost)
      rw [← sub_sub, ← hconserved]
      exact max_eq_left (sub_nonneg.mpr hcovered)

theorem Worth.step_iff (h : Worth history) (movement : StockMovement) :
    Worth (history.step movement) ↔ Covered history movement := by
  cases movement with
  | receipt quantity cost date => exact h.receipt_iff quantity cost date
  | issue quantity date => exact h.issue_iff quantity date

theorem averageOfStock_of_knowsStock {movement : StockMovement} (h : KnowsStock history movement) :
    AverageOfStock history movement := by
  rintro quantity cost date rfl hmethod position hstock
  obtain ⟨hexisting, hnonneg⟩ := h hmethod
  have hpos : 0 < history.position.valuation.existing_qty + quantity := by
    rw [hexisting]
    exact lt_of_le_of_ne hnonneg (Ne.symm hstock)
  change (history.position.valuation.update_on_receipt quantity cost).unit_cost = roundDp 4
    ((history.position.valuation.update_on_receipt quantity cost).total_value /
      (history.position.quantity_on_hand + quantity))
  rw [PositionValuation.update_on_receipt, hmethod, ← hexisting]
  exact if_pos hpos

/-- The value is kept exactly if every movement is covered, and averages are those of the stock
wherever receipts know it. -/
theorem stock_value_iff (position : InventoryPosition) (movements : List StockMovement) :
    (AlongRun ValueHistory.step Worth (.start position) movements ↔
        Worth (.start position) ∧ EveryStep ValueHistory.step Covered (.start position) movements) ∧
      (EveryStep ValueHistory.step KnowsStock (.start position) movements →
        EveryStep ValueHistory.step AverageOfStock (.start position) movements) := by
  constructor
  · exact alongRun_iff fun history movement h => h.step_iff movement
  · exact EveryStep.imp fun history movement => averageOfStock_of_knowsStock

/-- An empty position under a moving average. -/
def averagedPosition : InventoryPosition :=
  { InventoryPosition.new with
    valuation := { PositionValuation.default with method := .movingAverage } }

theorem unit_cost_of_three :
    (averagedPosition.add_quantity 3 20 ⟨0⟩).valuation.unit_cost = 66667 / 10000 := by
  have hround : roundDp 4 (20 / 3 : ℚ) = (66667 : ℤ) / 10 ^ 4 := by
    apply roundDp_eq
    norm_num [abs_lt]
  have hunit : (averagedPosition.add_quantity 3 20 ⟨0⟩).valuation.unit_cost =
      roundDp 4 (20 / 3 : ℚ) := by
    simp [averagedPosition, InventoryPosition.new, InventoryPosition.add_quantity,
      InventoryPosition.update_status, InventoryPosition.calculate_available,
      PositionValuation.update_on_receipt, PositionValuation.existing_qty,
      PositionValuation.default]
  rw [hunit, hround]
  norm_num

/-- Three pieces are received for 20, and issued at 6.6667 each. -/
theorem issue_at_rounded_cost :
    ¬ ∀ (position : InventoryPosition) (movements : List StockMovement),
      Worth (.start position) →
        AlongRun ValueHistory.step Worth (.start position) movements ∧
          EveryStep ValueHistory.step AverageOfStock (.start position) movements := by
  intro h
  have hstart : Worth (.start averagedPosition) := by
    refine ⟨?_, fun _ => le_refl 0⟩
    decide_cbv
  have hrun := (h averagedPosition [.receipt 3 20 ⟨0⟩, .issue 3 ⟨0⟩] hstart).1
  have hreceived : Worth ((ValueHistory.start averagedPosition).step (.receipt 3 20 ⟨0⟩)) :=
    hrun [.receipt 3 20 ⟨0⟩] (List.prefix_append _ _)
  have hcovered := (hreceived.issue_iff 3 ⟨0⟩).mp hrun.finish
  have havailable : 3 ≤ (averagedPosition.add_quantity 3 20 ⟨0⟩).quantity_available := by
    simp [averagedPosition, InventoryPosition.new, InventoryPosition.add_quantity,
      InventoryPosition.update_status, InventoryPosition.calculate_available]
  have hcost : 3 * (averagedPosition.add_quantity 3 20 ⟨0⟩).valuation.unit_cost ≤ 0 + 20 :=
    hcovered havailable
  rw [unit_cost_of_three] at hcost
  norm_num at hcost

end Datasynth.Subledger.StockValue
