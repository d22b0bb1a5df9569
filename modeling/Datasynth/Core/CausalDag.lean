import Datasynth.Core.CountryPacks
import Datasynth.Lib.HashIteration
import Datasynth.Lib.TopologicalOrder
import Mathlib.Algebra.Order.Field.Basic
import Mathlib.Algebra.Order.Field.Rat
import Mathlib.Data.String.Basic

/-!
The causal graph between generation parameters: its validation, and how interventions on
some parameters change the others.
-/

namespace Datasynth.Core.CausalDag

open Datasynth.Lib.HashIteration
open Datasynth.Lib.SortedEntries
open Datasynth.Lib.TopologicalOrder

universe u

variable {K : Type u}

inductive TransferFunction (K : Type u) where
  | linear (coefficient intercept : K)
  | exponential (base rate : K)
  | logistic (capacity midpoint steepness : K)
  | inverseLogistic (capacity midpoint steepness : K)
  | step (threshold magnitude : K)
  /-- Without `saturation` the effect is not capped. -/
  | threshold (threshold magnitude : K) (saturation : Option K)
  | decay (initial decay_rate : K)
  | piecewise (points : List (K × K))

structure CausalNode (K : Type u) where
  id : String
  baseline_value : K
  bounds : Option (K × K)

structure CausalEdge (K : Type u) where
  from_node : String
  to_node : String
  transfer : TransferFunction K
  lag_months : ℕ
  strength : K

structure CausalDAG (K : Type u) where
  nodes : List (CausalNode K)
  edges : List (CausalEdge K)
  topological_order : List String

/-- The functions of the standard library that transfer functions use. -/
structure RealFunctions (K : Type u) where
  exp : K → K
  powf : K → K → K

section Compute

variable [Field K] [LinearOrder K]

/-- The value on the first segment that the input lies on. -/
def interpolate (input : K) : List (K × K) → Option K
  | (x0, y0) :: (x1, y1) :: rest =>
      if x0 ≤ input ∧ input ≤ x1 then some (y0 + (input - x0) / (x1 - x0) * (y1 - y0))
      else interpolate input ((x1, y1) :: rest)
  | _ => none

def computePiecewise (points : List (K × K)) (input : K) : K :=
  match points with
  | [] => 0
  | [point] => point.2
  | points =>
      match points.insertionSort fun a b => a.1 ≤ b.1 with
      | [] => 0
      | first :: rest =>
          let last := rest.getLastD first
          if input ≤ first.1 then first.2
          else if last.1 ≤ input then last.2
          else (interpolate input (first :: rest)).getD last.2

def TransferFunction.compute (fns : RealFunctions K) (transfer : TransferFunction K)
    (input : K) : K :=
  match transfer with
  | .linear coefficient intercept => input * coefficient + intercept
  | .exponential base rate => base * fns.powf (1 + rate) input
  | .logistic capacity midpoint steepness =>
      capacity / (1 + fns.exp (-steepness * (input - midpoint)))
  | .inverseLogistic capacity midpoint steepness =>
      capacity / (1 + fns.exp (steepness * (input - midpoint)))
  | .step limit magnitude => if limit < input then magnitude else 0
  | .threshold limit magnitude saturation =>
      if limit < input then
        let scaled := magnitude * (input - limit) / limit
        saturation.elim scaled (min scaled)
      else 0
  | .decay initial decay_rate => initial * fns.exp (-decay_rate * input)
  | .piecewise points => computePiecewise points input

end Compute

inductive CausalDAGError where
  | cycleDetected
  | unknownNode (id : String)
  | duplicateNode (id : String)
  | nonInterventionable (id : String)
deriving DecidableEq, Repr

def CausalDAGError.message : CausalDAGError → String
  | .cycleDetected => "cycle detected in causal DAG"
  | .unknownNode id => "unknown node referenced in edge: " ++ id
  | .duplicateNode id => "duplicate node ID: " ++ id
  | .nonInterventionable id => "node '" ++ id ++ "' is not interventionable"

/-- The first id that occurs again. -/
def firstDuplicate : List String → List String → Option String
  | _, [] => none
  | seen, id :: ids => if id ∈ seen then some id else firstDuplicate (id :: seen) ids

section Graph

variable (dag : CausalDAG K)

def CausalDAG.node_ids : List String := dag.nodes.map (·.id)

def CausalDAG.ends : List (String × String) := dag.edges.map fun e => (e.from_node, e.to_node)

def CausalDAG.unknownEnd : Option String :=
  dag.edges.findSome? fun e =>
    if e.from_node ∉ dag.node_ids then some e.from_node
    else if e.to_node ∉ dag.node_ids then some e.to_node
    else none

/-- `in_degree` and `adjacency`. -/
def CausalDAG.tables : OrderedMap String ℕ × OrderedMap String (List String) :=
  dag.ends.foldl tallyEdge
    (dag.node_ids.foldl (fun in_degree id => in_degree.insert id 0) .empty,
      dag.node_ids.foldl (fun adjacency id => adjacency.insert id []) .empty)

/-- The queue starts in the order in which the hash map of degrees is iterated. -/
def CausalDAG.kahnOrder (order : HashOrder) : List String :=
  (Progress.finishFrom (fun node => (dag.tables.2.find? node).getD []) id
    (((order.iter dag.tables.1.entries).filter fun e => e.2 = 0).map Prod.fst) dag.tables.1).sorted

def CausalDAG.validate (order : HashOrder) : Except CausalDAGError (CausalDAG K) :=
  match firstDuplicate [] dag.node_ids with
  | some id => .error (.duplicateNode id)
  | none =>
      match dag.unknownEnd with
      | some id => .error (.unknownNode id)
      | none =>
          if (dag.kahnOrder order).length ≠ dag.nodes.length then .error .cycleDetected
          else .ok { dag with topological_order := dag.kahnOrder order }

def CausalDAG.find_node (id : String) : Option (CausalNode K) :=
  dag.nodes.find? fun n => n.id = id

end Graph

section Propagation

variable [Field K] [LinearOrder K] (compute : TransferFunction K → K → K) (dag : CausalDAG K)

/-- `f64::EPSILON`. -/
def epsilon : K := 1 / (2 ^ 52 : ℕ)

/-- `f64::clamp`, which panics if the bounds are in the wrong order. -/
def clamp (value lower upper : K) : Option K :=
  if lower ≤ upper then
    some (if value < lower then lower else if upper < value then upper else value)
  else none

def CausalDAG.baselineOf (id : String) : K := (dag.find_node id).elim 0 (·.baseline_value)

/-- What an edge adds, if enough months have passed and its source left its baseline. -/
def CausalDAG.effectOf (month : ℕ) (values : String → Option K) (edge : CausalEdge K) : Option K :=
  if month < edge.lag_months then none
  else
    let delta := (values edge.from_node).getD 0 - dag.baselineOf edge.from_node
    if |delta| < epsilon then none else some (compute edge.transfer delta * edge.strength)

def CausalDAG.effects (month : ℕ) (values : String → Option K) (id : String) : List K :=
  (dag.edges.filter fun e => e.to_node = id).filterMap (dag.effectOf compute month values)

/-- The new value of a node under the given effects on it. -/
def CausalDAG.newValue (id : String) (effects : List K) : Option K :=
  let new_value := dag.baselineOf id + effects.sum
  match (dag.find_node id).bind (·.bounds) with
  | some (lower, upper) => clamp new_value lower upper
  | none => some new_value

def CausalDAG.propagateNode (interventions : OrderedMap String K) (month : ℕ)
    (values : OrderedMap String K) (id : String) : Option (OrderedMap String K) :=
  if (interventions.find? id).isSome then some values
  else
    match dag.effects compute month values.find? id with
    | [] => some values
    | effects => (dag.newValue id effects).map (values.insert id)

def CausalDAG.propagateAlong (interventions : OrderedMap String K) (month : ℕ) :
    List String → OrderedMap String K → Option (OrderedMap String K)
  | [], values => some values
  | id :: ids, values =>
      (dag.propagateNode compute interventions month values id).bind
        (CausalDAG.propagateAlong interventions month ids)

def CausalDAG.initialValues (interventions : OrderedMap String K) : OrderedMap String K :=
  interventions.entries.foldl (fun values e => values.insert e.1 e.2)
    (dag.nodes.foldl (fun values node => values.insert node.id node.baseline_value) .empty)

/-- No result is a panic of `clamp`. -/
def CausalDAG.propagate (interventions : OrderedMap String K) (month : ℕ) :
    Option (OrderedMap String K) :=
  dag.propagateAlong compute interventions month dag.topological_order
    (dag.initialValues interventions)

end Propagation

end Datasynth.Core.CausalDag

/-!
The interventions of a scenario and the causal graph whose nodes they act on.  Numbers
are exact rationals.
-/

namespace Datasynth.Core.Interventions

open Datasynth.Core.CausalDag
open Datasynth.Core.CountryPacks
open Datasynth.Lib.SortedEntries

inductive InterventionEntityEvent
  | vendorDefault
  | customerChurn
  | employeeDeparture
  | newVendorOnboarding
  | mergerAcquisition
  | vendorCollusion
  | customerConsolidation
  | keyPersonRisk

structure EntityEventIntervention where
  subtype : InterventionEntityEvent
  parameters : OrderedMap String Json

structure ParameterShiftIntervention where
  target : String
  from_value : Option Json
  to_value : Json

structure ControlFailureIntervention where
  severity : ℚ

inductive ProcessChangeType
  | approvalThresholdChange
  | newApprovalLevel
  | systemMigration
  | processAutomation
  | outsourcingTransition
  | policyChange
  | reorganizationRestructuring

structure ProcessChangeIntervention where
  subtype : ProcessChangeType

inductive MacroShockType
  | recession
  | inflationSpike
  | currencyCrisis
  | interestRateShock
  | commodityShock
  | pandemicDisruption
  | supplyChainCrisis
  | creditCrunch

structure MacroShockIntervention where
  subtype : MacroShockType
  severity : ℚ
  overrides : OrderedMap String ℚ

inductive RegulatoryChangeType
  | newStandardAdoption
  | materialityThresholdChange
  | reportingRequirementChange
  | complianceThresholdChange
  | auditStandardChange
  | taxRateChange

structure RegulatoryChangeIntervention where
  subtype : RegulatoryChangeType
  parameters : OrderedMap String Json

structure CustomIntervention where
  config_overrides : OrderedMap String Json

inductive InterventionType
  | entityEvent (ee : EntityEventIntervention)
  | parameterShift (ps : ParameterShiftIntervention)
  | controlFailure (cf : ControlFailureIntervention)
  | processChange (pc : ProcessChangeIntervention)
  | macroShock (ms : MacroShockIntervention)
  | regulatoryChange (rc : RegulatoryChangeIntervention)
  | composite (children : List InterventionType)
  | custom (ci : CustomIntervention)

inductive OnsetType
  | sudden
  | gradual
  | oscillating
  /-- The easing function is not used. -/
  | custom

structure InterventionTiming where
  start_month : UInt32
  duration_months : Option UInt32
  onset : OnsetType
  ramp_months : Option UInt32

structure Intervention where
  intervention_type : InterventionType
  timing : InterventionTiming
  priority : UInt32

/-- A node of the causal graph with the configuration paths bound to it. -/
structure BoundNode extends CausalNode ℚ where
  config_bindings : List String

structure BoundDAG where
  nodes : List BoundNode
  edges : List (CausalEdge ℚ)
  topological_order : List String

/-- The graph without the bindings, which the propagation does not look at. -/
def BoundDAG.toCausalDAG (dag : BoundDAG) : CausalDAG ℚ :=
  ⟨dag.nodes.map BoundNode.toCausalNode, dag.edges, dag.topological_order⟩

def BoundDAG.find_node (dag : BoundDAG) (id : String) : Option BoundNode :=
  dag.nodes.find? fun n => n.id = id

/-- `as_f64` of a configuration value. -/
def asF64 : Json → Option ℚ
  | .number x => some x
  | _ => none

end Datasynth.Core.Interventions
