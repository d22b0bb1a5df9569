import Datasynth.Group.ManifestBuilder
import Datasynth.Lib.HalfEvenRounding

/-!
The rollforward of a subsidiary's non-controlling interest, with the ownership
changes of the period.
-/

namespace Datasynth.Group.NciMeasurement

open Datasynth.Core.OwnershipChanges
open Datasynth.Group.Config
open Datasynth.Group.ManifestBuilder
open Datasynth.Lib.CivilCalendar
open Datasynth.Lib.DecimalText
open Datasynth.Lib.ExceptRuns
open Datasynth.Lib.HalfEvenRounding

structure NciRollforward where
  entity_code : String
  parent_entity_code : String
  ownership_percent : ℚ
  nci_percent : ℚ
  opening_nci : ℚ
  nci_share_of_profit : ℚ
  nci_share_of_oci : ℚ
  nci_dividends : ℚ
  equity_transaction_adjustments : ℚ
  pl_remeasurement_gain_or_loss : ℚ
  closing_nci : ℚ
  period_end : Date
  currency : String
deriving DecidableEq

structure NciInputs where
  entity : ManifestEntity
  period_net_income : ℚ
  period_oci : ℚ
  total_dividends_paid : ℚ
  opening_nci : ℚ
  acquisition_date_nci_fair_value : Option ℚ
  ownership_changes : List OwnershipChangeEvent
  period_start : Date
  period_end : Date
  currency : String

def methodDebugName : ConsolidationMethod → String
  | .parent => "Parent"
  | .full => "Full"
  | .equityMethod => "EquityMethod"
  | .proportional => "Proportional"
  | .fairValue => "FairValue"

/-- What the walk over the period's events has collected. -/
structure EventWalk where
  equity_transaction_adjustments : ℚ
  control_gained_event : Option OwnershipChangeEvent

def EventWalk.start : EventWalk := ⟨0, none⟩

def walkEvent (code : String) (st : EventWalk) (ev : OwnershipChangeEvent) :
    GroupResult EventWalk :=
  match ev.event_type with
  | .controlIncreased | .controlDecreased =>
      .ok { st with equity_transaction_adjustments :=
              st.equity_transaction_adjustments - ev.consideration_paid_or_received }
  | .controlGained => .ok { st with control_gained_event := some ev }
  | .controlLost => .error <| .aggregate <|
      s!"compute_nci_rollforward: entity `{code}`: ControlLost mid-period deconsolidation " ++
        "events are not yet supported by the rollforward — this is a v5.5+ follow-up."

/-- The effect of the acquisition of control on the period. -/
structure GainedEffect where
  time_weight : ℚ
  pl_remeasurement_gain_or_loss : ℚ
  opening_override : Option ℚ

def timeWeight (period_start period_end effective_date : Date) : ℚ :=
  let total_days := period_start.daysUntil period_end + 1
  let post_days := effective_date.daysUntil period_end + 1
  (post_days : ℚ) / total_days

def remeasurement (ev : OwnershipChangeEvent) : ℚ :=
  match ev.previously_held_interest_fair_value, ev.previously_held_interest_carrying with
  | some fv, some carrying => fv - carrying
  | _, _ => 0

def gainedEffect (inputs : NciInputs) : Option OwnershipChangeEvent → GroupResult GainedEffect
  | none => .ok ⟨1, 0, none⟩
  | some ev =>
      if ev.effective_date < inputs.period_start ∨ inputs.period_end < ev.effective_date then
        .error <| .aggregate <|
          s!"compute_nci_rollforward: entity `{inputs.entity.code}`: ControlGained " ++
            "effective_date " ++ dateText ev.effective_date ++ " is outside the period [" ++
            dateText inputs.period_start ++ ", " ++ dateText inputs.period_end ++ "] — " ++
            "the manifest builder normally rejects this; surface it here as a " ++
            "defence-in-depth check"
      else
        .ok ⟨timeWeight inputs.period_start inputs.period_end ev.effective_date, remeasurement ev,
          ev.acquisition_date_nci_fair_value.or inputs.acquisition_date_nci_fair_value⟩

def seededOpening (inputs : NciInputs) : ℚ :=
  match inputs.acquisition_date_nci_fair_value with
  | some fv => if inputs.opening_nci = 0 then fv else inputs.opening_nci
  | none => inputs.opening_nci

/-- The ownership share and the parent of an entity whose interest is measured. -/
def validateNciEntity (entity : ManifestEntity) : GroupResult (ℚ × String) :=
  if entity.consolidation_method ≠ .full then
    .error <| .aggregate <|
      s!"compute_nci_rollforward: entity `{entity.code}` has consolidation_method=" ++
        methodDebugName entity.consolidation_method ++
        " — NCI is only meaningful for ConsolidationMethod::Full (Parent is wholly owned; " ++
        "EquityMethod / Proportional / FairValue use one-line investment treatment)"
  else
    match entity.ownership_percent with
    | none => .error <| .aggregate <|
        s!"compute_nci_rollforward: entity `{entity.code}` is consolidation_method=Full but " ++
          "has no ownership_percent set — supply ownership_percent < 1.0 or change the " ++
          "method to Parent for wholly-owned"
    | some ownership_percent =>
        if 1 ≤ ownership_percent then
          .error <| .aggregate <|
            s!"compute_nci_rollforward: entity `{entity.code}` is consolidation_method=Full " ++
              "but has no ownership_percent < 1.0 — use Parent for wholly-owned"
        else
          match entity.parent_code with
          | none => .error <| .aggregate <|
              s!"compute_nci_rollforward: entity `{entity.code}` has no parent_code in the " ++
                "manifest — every Full subsidiary must declare its parent"
          | some parent_entity_code => .ok (ownership_percent, parent_entity_code)

def assembleRollforward (inputs : NciInputs) (ownership_percent : ℚ)
    (parent_entity_code : String) (walk : EventWalk) (effect : GainedEffect) : NciRollforward :=
  let nci_percent := 1 - ownership_percent
  let nci_share_of_profit := nci_percent * inputs.period_net_income * effect.time_weight
  let nci_share_of_oci := nci_percent * inputs.period_oci * effect.time_weight
  let nci_dividends := nci_percent * inputs.total_dividends_paid * effect.time_weight
  let effective_opening_nci := effect.opening_override.getD (seededOpening inputs)
  { entity_code := inputs.entity.code
    parent_entity_code
    ownership_percent
    nci_percent
    opening_nci := roundDp 2 effective_opening_nci
    nci_share_of_profit := roundDp 2 nci_share_of_profit
    nci_share_of_oci := roundDp 2 nci_share_of_oci
    nci_dividends := roundDp 2 nci_dividends
    equity_transaction_adjustments := roundDp 2 walk.equity_transaction_adjustments
    pl_remeasurement_gain_or_loss := roundDp 2 effect.pl_remeasurement_gain_or_loss
    closing_nci := roundDp 2 (effective_opening_nci + nci_share_of_profit + nci_share_of_oci -
      nci_dividends + walk.equity_transaction_adjustments)
    period_end := inputs.period_end
    currency := inputs.currency }

def compute_nci_rollforward (inputs : NciInputs) : GroupResult NciRollforward :=
  (validateNciEntity inputs.entity).bind fun (ownership_percent, parent_entity_code) =>
    (foldRun (walkEvent inputs.entity.code) EventWalk.start inputs.ownership_changes).bind
      fun walk =>
        (gainedEffect inputs walk.control_gained_event).bind fun effect =>
          .ok (assembleRollforward inputs ownership_percent parent_entity_code walk effect)

/-- The acquisition of control that applies: the last one of the period. -/
def controlGained (events : List OwnershipChangeEvent) : Option OwnershipChangeEvent :=
  (events.filter (·.event_type = .controlGained)).getLast?

/-- The walk fails on a loss of control and otherwise keeps the last acquisition. -/
theorem foldRun_walkEvent (code : String) (events : List OwnershipChangeEvent) (st : EventWalk) :
    (∃ st', foldRun (walkEvent code) st events = .ok st') ↔
      ∀ ev ∈ events, ev.event_type ≠ .controlLost := by
  induction events generalizing st with
  | nil => simp [foldRun]
  | cons ev events ih =>
      rw [List.forall_mem_cons, foldRun, walkEvent]
      cases htype : ev.event_type with
      | controlLost => simp [Except.bind]
      | controlGained => simpa [Except.bind] using ih _
      | controlIncreased => simpa [Except.bind] using ih _
      | controlDecreased => simpa [Except.bind] using ih _

theorem foldRun_walkEvent_gained {code : String} {events : List OwnershipChangeEvent}
    {st st' : EventWalk} (h : foldRun (walkEvent code) st events = .ok st') :
    st'.control_gained_event = (controlGained events).or st.control_gained_event := by
  induction events generalizing st with
  | nil =>
      cases h
      rfl
  | cons ev events ih =>
      obtain ⟨mid, hmid, hrest⟩ := bind_eq_ok_iff.mp h
      rw [ih hrest]
      rw [walkEvent] at hmid
      cases htype : ev.event_type with
      | controlLost => simp [htype] at hmid
      | controlGained =>
          simp only [htype] at hmid
          cases hmid
          simp only [controlGained, htype, List.filter_cons_of_pos, decide_true]
          cases hlast : (events.filter (·.event_type = .controlGained)).getLast? with
          | none => simp [List.getLast?_eq_none_iff.mp hlast]
          | some last => simp [List.getLast?_cons, hlast]
      | controlIncreased =>
          simp only [htype] at hmid
          cases hmid
          simp [controlGained, htype]
      | controlDecreased =>
          simp only [htype] at hmid
          cases hmid
          simp [controlGained, htype]

end Datasynth.Group.NciMeasurement
