import Datasynth.Core.CausalDag

/-!
How interventions act on the nodes of the causal graph, month by month, and the changes
of the configuration that follow from it.  Additions of months overflow as the build has
it: a debug build panics, a release build wraps around.
-/

namespace Datasynth.Runtime.CausalEngine

open Datasynth.Core.CausalDag
open Datasynth.Core.CountryPacks
open Datasynth.Core.Interventions
open Datasynth.Lib.HashIteration
open Datasynth.Lib.SortedEntries

inductive Profile
  | debug
  | release
deriving DecidableEq

/-- `a + b` of 32-bit numbers; no result is a panic. -/
def addU32 (profile : Profile) (a b : UInt32) : Option UInt32 :=
  match profile with
  | .debug => if a.toNat + b.toNat < 2 ^ 32 then some (a + b) else none
  | .release => some (a + b)

/-- The functions of the standard library that onsets use. -/
structure Trigonometry where
  pi : ℚ
  cos : ℚ → ℚ

structure ValidatedIntervention where
  intervention : Intervention
  affected_config_paths : List String

structure ConfigChange where
  path : String
  value : ℚ
  source_node : String
  is_direct : Bool
deriving DecidableEq

section Timing

def is_active (profile : Profile) (timing : InterventionTiming) (month : UInt32) : Option Bool :=
  if month < timing.start_month then some false
  else
    match timing.duration_months with
    | some duration =>
        (addU32 profile timing.start_month duration).map fun stop => decide (month < stop)
    | none => some true

def linearRamp (months_active : UInt32) (ramp_months : Option UInt32) : ℚ :=
  let ramp := max (ramp_months.getD 1) 1
  if ramp ≤ months_active then 1 else (months_active.toNat : ℚ) / (ramp.toNat : ℚ)

def compute_onset_factor (trig : Trigonometry) (timing : InterventionTiming) (month : UInt32) : ℚ :=
  let months_active := month - timing.start_month
  match timing.onset with
  | .sudden => 1
  | .gradual => linearRamp months_active timing.ramp_months
  | .oscillating =>
      let ramp := max (timing.ramp_months.getD 4) 1
      let phase := (months_active.toNat : ℚ) / (ramp.toNat : ℚ)
      0.5 * (1 - trig.cos (trig.pi * phase))
  | .custom => linearRamp months_active timing.ramp_months

end Timing

section Effects

variable (dag : BoundDAG)

/-- The insert at a node of the graph, from its baseline; none if there is no such node. -/
def onNode (id : String) (value : ℚ → ℚ) : List (String × ℚ) :=
  ((dag.find_node id).map fun node => (id, value node.baseline_value)).toList

def parameterShiftEffects (ps : ParameterShiftIntervention) (onset_factor : ℚ) :
    List (String × ℚ) :=
  dag.nodes.filterMap fun node =>
    if node.config_bindings.contains ps.target then
      (asF64 ps.to_value).map fun to_val =>
        let from_val := (ps.from_value.bind asF64).getD node.baseline_value
        (node.id, from_val + (to_val - from_val) * onset_factor)
    else none

def macroShockEffects (ms : MacroShockIntervention) (onset_factor : ℚ) : List (String × ℚ) :=
  let severity := ms.severity * onset_factor
  let shockOf (id : String) (standard : ℚ) := (ms.overrides.find? id).getD standard
  match ms.subtype with
  | .recession =>
      onNode dag "gdp_growth" (fun b => b + shockOf "gdp_growth" (-0.02) * severity) ++
        onNode dag "unemployment_rate" (fun b => b + shockOf "unemployment_rate" 0.03 * severity)
  | .inflationSpike =>
      onNode dag "inflation_rate" fun b => b + shockOf "inflation_rate" 0.05 * severity
  | .interestRateShock =>
      onNode dag "interest_rate" fun b => b + shockOf "interest_rate" 0.03 * severity
  | .creditCrunch =>
      onNode dag "gdp_growth" (fun b => b * (1 - 0.1 * severity)) ++
        onNode dag "ecl_provision_rate" (fun b => b + severity * 0.5) ++
        onNode dag "going_concern_risk" (fun b => b + severity * 0.3) ++
        onNode dag "debt_ratio" (fun b => b + severity * 0.4)
  | _ => onNode dag "gdp_growth" fun b => b * (1 - 0.1 * severity)

def controlFailureEffects (cf : ControlFailureIntervention) (onset_factor : ℚ) :
    List (String × ℚ) :=
  onNode dag "control_effectiveness" fun b =>
    b * cf.severity * onset_factor + b * (1 - onset_factor)

def entityEventEffects (ee : EntityEventIntervention) (onset_factor : ℚ) : List (String × ℚ) :=
  let rate_increase := ((ee.parameters.find? "rate_increase").bind asF64).getD 0.05
  match ee.subtype with
  | .vendorDefault => onNode dag "vendor_default_rate" fun b => b + rate_increase * onset_factor
  | .customerChurn => onNode dag "customer_churn_rate" fun b => b + rate_increase * onset_factor
  | .employeeDeparture | .keyPersonRisk =>
      onNode dag "processing_lag" (fun b => b * (1 + 0.2 * onset_factor)) ++
        onNode dag "error_rate" (fun b => b * (1 + 0.15 * onset_factor))
  | .newVendorOnboarding => onNode dag "transaction_volume" fun b => b * (1 + 0.1 * onset_factor)
  | .mergerAcquisition =>
      onNode dag "transaction_volume" (fun b => b * (1 + 0.5 * onset_factor)) ++
        onNode dag "error_rate" (fun b => b * (1 + 0.3 * onset_factor))
  | .vendorCollusion =>
      onNode dag "misstatement_risk" (fun b => min (b + 0.15 * onset_factor) 1) ++
        onNode dag "control_effectiveness" (fun b => b * (1 - 0.2 * onset_factor))
  | .customerConsolidation =>
      onNode dag "customer_churn_rate" fun b => b + rate_increase * onset_factor

def processChangeEffects (pc : ProcessChangeIntervention) (onset_factor : ℚ) :
    List (String × ℚ) :=
  match pc.subtype with
  | .processAutomation =>
      onNode dag "processing_lag" (fun b => b * (1 - 0.3 * onset_factor)) ++
        onNode dag "error_rate" (fun b => b * (1 - 0.2 * onset_factor))
  | .approvalThresholdChange | .newApprovalLevel =>
      onNode dag "control_effectiveness" fun b => min (b + 0.1 * onset_factor) 1
  | .policyChange => onNode dag "sod_compliance" fun b => min (b + 0.05 * onset_factor) 1
  | .systemMigration | .outsourcingTransition | .reorganizationRestructuring =>
      onNode dag "processing_lag" (fun b => b * (1 + 0.15 * onset_factor)) ++
        onNode dag "error_rate" (fun b => b * (1 + 0.1 * onset_factor))

def regulatoryChangeEffects (rc : RegulatoryChangeIntervention) (onset_factor : ℚ) :
    List (String × ℚ) :=
  let severity := ((rc.parameters.find? "severity").bind asF64).getD 0.5
  let magnitude := severity * onset_factor
  match rc.subtype with
  | .materialityThresholdChange =>
      onNode dag "materiality_threshold" (fun b => b + magnitude) ++
        onNode dag "sample_size_factor" (fun b => b + magnitude * 0.5)
  | .auditStandardChange =>
      onNode dag "inherent_risk" (fun b => b + magnitude * 0.3) ++
        onNode dag "sample_size_factor" (fun b => b + magnitude * 0.4)
  | .taxRateChange => onNode dag "tax_rate" fun b => b + magnitude
  | _ =>
      onNode dag "sod_compliance" (fun b => min (b + severity * 0.2 * onset_factor) 1) ++
        onNode dag "control_effectiveness" (fun b => min (b + severity * 0.15 * onset_factor) 1) ++
        onNode dag "misstatement_risk" (fun b => b * (1 - severity * 0.1 * onset_factor))

/-- The overrides are visited in hash order. -/
def customEffects (order : HashOrder) (ci : CustomIntervention) (onset_factor : ℚ) :
    List (String × ℚ) :=
  (order.iter ci.config_overrides.entries).flatMap fun (path, value) =>
    dag.nodes.filterMap fun node =>
      if node.config_bindings.contains path then
        (asF64 value).map fun v =>
          (node.id, node.baseline_value + (v - node.baseline_value) * onset_factor)
      else none

mutual

/-- The inserts of an intervention into the effects, one after the other. -/
def nodeEffects (order : HashOrder) (onset_factor : ℚ) : InterventionType → List (String × ℚ)
  | .parameterShift ps => parameterShiftEffects dag ps onset_factor
  | .macroShock ms => macroShockEffects dag ms onset_factor
  | .controlFailure cf => controlFailureEffects dag cf onset_factor
  | .entityEvent ee => entityEventEffects dag ee onset_factor
  | .custom ci => customEffects dag order ci onset_factor
  | .processChange pc => processChangeEffects dag pc onset_factor
  | .regulatoryChange rc => regulatoryChangeEffects dag rc onset_factor
  | .composite children => childrenEffects order onset_factor children

def childrenEffects (order : HashOrder) (onset_factor : ℚ) :
    List InterventionType → List (String × ℚ)
  | [] => []
  | child :: children =>
      nodeEffects order onset_factor child ++ childrenEffects order onset_factor children

end

def map_intervention_to_nodes (order : HashOrder) (intervention_type : InterventionType)
    (onset_factor : ℚ) (effects : OrderedMap String ℚ) : OrderedMap String ℚ :=
  (nodeEffects dag order onset_factor intervention_type).foldl
    (fun effects e => effects.insert e.1 e.2) effects

end Effects

section Propagate

variable (profile : Profile) (trig : Trigonometry) (dag : BoundDAG)

/-- No result is a panic of `is_active`. -/
def effectsFrom (order : HashOrder) (month : UInt32) :
    List ValidatedIntervention → OrderedMap String ℚ → Option (OrderedMap String ℚ)
  | [], effects => some effects
  | validated :: rest, effects =>
      let timing := validated.intervention.timing
      (is_active profile timing month).bind fun active =>
        if active then
          effectsFrom order month rest
            (map_intervention_to_nodes dag order validated.intervention.intervention_type
              (compute_onset_factor trig timing month) effects)
        else effectsFrom order month rest effects

def compute_direct_effects (order : HashOrder) (interventions : List ValidatedIntervention)
    (month : UInt32) : Option (OrderedMap String ℚ) :=
  effectsFrom profile trig dag order month interventions .empty

/-- The months of the generation period. -/
def months (period_months : UInt32) : List UInt32 :=
  (List.range period_months.toNat).map fun i => UInt32.ofNat (i + 1)

/-- The orders in which the maps of a run are iterated. -/
structure IterationOrders where
  overrides : HashOrder
  values : UInt32 → HashOrder
  writes : HashOrder

variable (fns : RealFunctions ℚ)

/-- The values of all nodes in a month; none are propagated without a direct effect. -/
def propagatedValues (order : HashOrder) (interventions : List ValidatedIntervention)
    (month : UInt32) : Option (OrderedMap String ℚ) :=
  (compute_direct_effects profile trig dag order interventions month).bind fun direct =>
    if direct.entries.isEmpty then some .empty
    else dag.toCausalDAG.propagate (TransferFunction.compute fns) direct month.toNat

/-- The changes that a node makes, none at its baseline. -/
def changesOf (direct : OrderedMap String ℚ) (e : String × ℚ) : List ConfigChange :=
  match dag.find_node e.1 with
  | some node =>
      if |e.2 - node.baseline_value| < epsilon then []
      else node.config_bindings.map fun binding =>
        ⟨binding, e.2, e.1, (direct.find? e.1).isSome⟩
  | none => []

/-- The changes of one month, in the order in which the values are visited. -/
def monthChanges (orders : IterationOrders) (interventions : List ValidatedIntervention)
    (month : UInt32) : Option (List ConfigChange) :=
  (compute_direct_effects profile trig dag orders.overrides interventions month).bind fun direct =>
    (propagatedValues profile trig dag fns orders.overrides interventions month).map fun values =>
      ((orders.values month).iter values.entries).flatMap (changesOf dag direct)

/-- The changes of the months that have any. -/
def propagateMonths (orders : IterationOrders) (interventions : List ValidatedIntervention) :
    List UInt32 → Option (List (UInt32 × List ConfigChange))
  | [] => some []
  | month :: rest =>
      (monthChanges profile trig dag fns orders interventions month).bind fun changes =>
        (propagateMonths orders interventions rest).map fun later =>
          if changes.isEmpty then later else (month, changes) :: later

def propagate (orders : IterationOrders) (interventions : List ValidatedIntervention)
    (period_months : UInt32) : Option (List (UInt32 × List ConfigChange)) :=
  propagateMonths profile trig dag fns orders interventions (months period_months)

end Propagate

end Datasynth.Runtime.CausalEngine
