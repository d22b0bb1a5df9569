import Datasynth.Lib.CivilCalendar
import Datasynth.Lib.PricedStreams
import Datasynth.Lib.StepRuns
import Mathlib.Algebra.Order.Field.Rat

/-!
The tracker of first-in, first-out inventory, and the history of its receipts and issues.
-/

namespace Datasynth.Subledger.FifoTracker

open Datasynth.Lib.CivilCalendar Datasynth.Lib.PricedStreams Datasynth.Lib.StepRuns

structure FIFOLayer where
  receipt_date : Date
  receipt_document : String
  quantity : ℚ
  unit_cost : ℚ
deriving DecidableEq

/-- The layers stand with the oldest first. -/
structure FIFOTracker where
  layers : List FIFOLayer
  total_quantity : ℚ
  total_value : ℚ
deriving DecidableEq

/-- The loop over the layers: what is left of them, and the cost so far. -/
def issueLayers : List FIFOLayer → ℚ → ℚ → List FIFOLayer × ℚ
  | [], _, total_cost => ([], total_cost)
  | front :: layers, remaining, total_cost =>
      if 0 < remaining then
        if front.quantity ≤ remaining then
          issueLayers layers (remaining - front.quantity)
            (total_cost + front.quantity * front.unit_cost)
        else
          ({ front with quantity := front.quantity - remaining } :: layers,
            total_cost + remaining * front.unit_cost)
      else (front :: layers, total_cost)

namespace FIFOTracker

def new : FIFOTracker := ⟨[], 0, 0⟩

variable (tracker : FIFOTracker)

def receive (date : Date) (document : String) (quantity unit_cost : ℚ) : FIFOTracker where
  layers := tracker.layers ++ [⟨date, document, quantity, unit_cost⟩]
  total_quantity := tracker.total_quantity + quantity
  total_value := tracker.total_value + quantity * unit_cost

def issue (quantity : ℚ) : Option ℚ × FIFOTracker :=
  if tracker.total_quantity < quantity then (none, tracker)
  else
    let issued := issueLayers tracker.layers quantity 0
    (some issued.2,
      { layers := issued.1
        total_quantity := tracker.total_quantity - quantity
        total_value := tracker.total_value - issued.2 })

end FIFOTracker

/-- The layers as a stream of priced units. -/
def stream (layers : List FIFOLayer) : Batches ℚ :=
  layers.map fun layer => (layer.quantity, layer.unit_cost)

inductive FIFOOperation where
  | receive (date : Date) (document : String) (quantity unit_cost : ℚ)
  | issue (quantity : ℚ)
deriving DecidableEq

def FIFOOperation.quantity : FIFOOperation → ℚ
  | .receive _ _ quantity _ | .issue quantity => quantity

/-- A tracker, all that it has received, how much it has issued, and at which costs. -/
structure History where
  tracker : FIFOTracker
  received : Batches ℚ
  issued : ℚ
  issue_costs : List ℚ
deriving DecidableEq

def History.start : History := ⟨.new, [], 0, []⟩

def History.step (history : History) : FIFOOperation → History
  | .receive date document quantity unit_cost =>
      { history with
        tracker := history.tracker.receive date document quantity unit_cost
        received := history.received ++ [(quantity, unit_cost)] }
  | .issue quantity =>
      match history.tracker.issue quantity with
      | (none, tracker) => { history with tracker := tracker }
      | (some cost, tracker) =>
          { history with
            tracker := tracker
            issued := history.issued + quantity
            issue_costs := history.issue_costs ++ [cost] }

/-- The totals are those of the layers, and nothing of the value received is lost. -/
structure TotalsHold (history : History) : Prop where
  total_quantity : history.tracker.total_quantity = units (stream history.tracker.layers)
  total_value : history.tracker.total_value = value (stream history.tracker.layers)
  conserved :
    history.issue_costs.sum + history.tracker.total_value = value history.received

/-- An issue costs what the oldest units on hand cost, which are those received behind the ones
issued before; without a cost it leaves the tracker unchanged. -/
def CostsOldest (history : History) (operation : FIFOOperation) : Prop :=
  ∀ quantity, operation = .issue quantity →
    (∀ cost, (history.tracker.issue quantity).1 = some cost →
      cost = costOfFirst (stream history.tracker.layers) quantity ∧
      cost = costOfFirst history.received (history.issued + quantity) -
        costOfFirst history.received history.issued) ∧
    ((history.tracker.issue quantity).1 = none →
      (history.tracker.issue quantity).2 = history.tracker)

section Layers

variable {layers : List FIFOLayer} {remaining : ℚ}

theorem stream_cons (front : FIFOLayer) (layers : List FIFOLayer) :
    stream (front :: layers) = (front.quantity, front.unit_cost) :: stream layers := rfl

/-- The loop takes the first units, and adds up what they cost. -/
theorem issueLayers_spec (hstocked : Stocked (stream layers)) (hremaining : 0 ≤ remaining)
    (hle : remaining ≤ units (stream layers)) (total_cost : ℚ) :
    LeftAfter (stream layers) remaining (stream (issueLayers layers remaining total_cost).1) ∧
      (issueLayers layers remaining total_cost).2 =
        total_cost + costOfFirst (stream layers) remaining := by
  induction layers generalizing remaining total_cost with
  | nil =>
      obtain rfl := le_antisymm hle hremaining
      exact ⟨leftAfter_zero hstocked, (add_zero total_cost).symm⟩
  | cons front layers ih =>
      rw [stream_cons] at hstocked hle ⊢
      obtain ⟨hquantity, hlayers⟩ := stocked_cons.mp hstocked
      rw [issueLayers]
      split
      · split
        · rename_i hwhole
          have hrest : remaining - front.quantity ≤ units (stream layers) := by
            rw [units, List.map_cons, List.sum_cons] at hle
            exact sub_le_iff_le_add'.mpr hle
          obtain ⟨hleft, hcost⟩ := ih hlayers (sub_nonneg.mpr hwhole) hrest
            (total_cost + front.quantity * front.unit_cost)
          refine ⟨hleft.whole hwhole, ?_⟩
          rw [hcost, costOfFirst, min_eq_right hwhole, add_assoc]
        · rename_i hpart
          have hpart_le : remaining ≤ front.quantity := (not_le.mp hpart).le
          refine ⟨leftAfter_part hlayers hpart_le, ?_⟩
          rw [costOfFirst, min_eq_left hpart_le, sub_self, costOfFirst_zero hlayers, add_zero]
      · rename_i hdone
        obtain rfl := le_antisymm (not_lt.mp hdone) hremaining
        refine ⟨leftAfter_zero hstocked, ?_⟩
        rw [costOfFirst_zero hstocked, add_zero]

end Layers

section Histories

variable {history : History}

/-- The layers are what is left of the receipts, and the issues cost what is gone. -/
structure Sound (history : History) : Prop where
  stocked : Stocked history.received
  issued_nonneg : 0 ≤ history.issued
  left : LeftAfter history.received history.issued (stream history.tracker.layers)
  total_quantity : history.tracker.total_quantity = units (stream history.tracker.layers)
  total_value : history.tracker.total_value = value (stream history.tracker.layers)
  issue_costs : history.issue_costs.sum = costOfFirst history.received history.issued

theorem sound_start : Sound History.start := by
  have hstocked : Stocked ([] : Batches ℚ) := List.forall_mem_nil _
  exact ⟨hstocked, le_refl 0, leftAfter_zero hstocked, rfl, rfl, rfl⟩

theorem Sound.totalsHold (h : Sound history) : TotalsHold history := by
  refine ⟨h.total_quantity, h.total_value, ?_⟩
  rw [h.issue_costs, h.total_value, h.left.value_eq h.stocked, add_sub_cancel]

theorem Sound.receive (h : Sound history) (date : Date) (document : String) {quantity : ℚ}
    (hquantity : 0 ≤ quantity) (unit_cost : ℚ) :
    Sound (history.step (.receive date document quantity unit_cost)) := by
  have hstream : stream (history.tracker.receive date document quantity unit_cost).layers =
      stream history.tracker.layers ++ [(quantity, unit_cost)] :=
    List.map_append
  have hbatch : Stocked [(quantity, unit_cost)] :=
    stocked_cons.mpr ⟨hquantity, List.forall_mem_nil _⟩
  refine ⟨h.stocked.append hbatch, h.issued_nonneg, ?_, ?_, ?_, ?_⟩
  · rw [History.step, hstream]
    exact h.left.append h.stocked h.issued_nonneg hbatch
  · rw [History.step, hstream, units_append, ← h.total_quantity]
    simp [FIFOTracker.receive, units]
  · rw [History.step, hstream, value_append, ← h.total_value]
    simp [FIFOTracker.receive, value]
  · rw [History.step, h.left.costOfFirst_append h.stocked h.issued_nonneg hbatch]
    exact h.issue_costs

theorem costsOldest_of_lt {quantity : ℚ} (hover : history.tracker.total_quantity < quantity) :
    CostsOldest history (.issue quantity) := by
  rintro _ ⟨⟩
  rw [FIFOTracker.issue, if_pos hover]
  refine ⟨?_, fun _ => rfl⟩
  intro cost hcost
  cases hcost

theorem Sound.issue (h : Sound history) {quantity : ℚ} (hquantity : 0 ≤ quantity) :
    Sound (history.step (.issue quantity)) ∧ CostsOldest history (.issue quantity) := by
  by_cases hover : history.tracker.total_quantity < quantity
  · refine ⟨?_, costsOldest_of_lt hover⟩
    rw [History.step, FIFOTracker.issue, if_pos hover]
    exact h
  · have hle : quantity ≤ units (stream history.tracker.layers) := by
      rw [← h.total_quantity]
      exact not_lt.mp hover
    have hissue : history.tracker.issue quantity = _ := if_neg hover
    obtain ⟨hleft, hcost⟩ := issueLayers_spec h.left.stocked hquantity hle 0
    rw [zero_add] at hcost
    have hcost_received := h.left.cost_eq quantity hquantity
    constructor
    · rw [History.step, hissue]
      refine ⟨h.stocked, add_nonneg h.issued_nonneg hquantity, h.left.trans hquantity hleft,
        ?_, ?_, ?_⟩
      · exact (congrArg (· - quantity) h.total_quantity).trans hleft.units_eq.symm
      · change history.tracker.total_value - (issueLayers _ quantity 0).2 = _
        rw [hcost, h.total_value]
        exact (hleft.value_eq h.left.stocked).symm
      · change (history.issue_costs ++ [(issueLayers _ quantity 0).2]).sum = _
        rw [List.sum_append, List.sum_singleton, hcost, hcost_received, h.issue_costs,
          add_sub_cancel]
    · rintro _ ⟨⟩
      rw [hissue]
      refine ⟨?_, fun hnone => ?_⟩
      · rintro cost ⟨⟩
        exact ⟨hcost, hcost.trans hcost_received⟩
      · cases hnone

/-- Over any receipts and issues, the totals hold and every issue costs the oldest units. -/
theorem fifo_contract {operations : List FIFOOperation}
    (hquantities : ∀ operation ∈ operations, 0 ≤ operation.quantity) :
    AlongRun History.step TotalsHold .start operations ∧
      EveryStep History.step CostsOldest .start operations := by
  have hkeeps : AlongRun History.step Sound .start operations ∧
      EveryStep History.step CostsOldest .start operations := by
    apply run_keeps sound_start
    intro history operation hoperation h
    have hquantity := hquantities operation hoperation
    cases operation with
    | receive date document quantity unit_cost =>
        refine ⟨h.receive date document hquantity unit_cost, ?_⟩
        intro quantity heq
        cases heq
    | issue quantity => exact h.issue hquantity
  exact ⟨hkeeps.1.imp fun _ h => h.totalsHold, hkeeps.2⟩

/-- Of 100 units at 10 and 100 at 12, then 150 units are issued, and 60 are too many. -/
theorem fifo_two_layers :
    AlongRun History.step TotalsHold .start
        [.receive ⟨0⟩ "GR1" 100 10, .receive ⟨1⟩ "GR2" 100 12, .issue 150, .issue 60] ∧
      EveryStep History.step CostsOldest .start
        [.receive ⟨0⟩ "GR1" 100 10, .receive ⟨1⟩ "GR2" 100 12, .issue 150, .issue 60] :=
  fifo_contract (by decide_cbv)

end Histories

end Datasynth.Subledger.FifoTracker
