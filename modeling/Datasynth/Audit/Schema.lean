import Mathlib.Data.String.Basic
import Datasynth.Lib.CivilCalendar
import Datasynth.Lib.DoubleValues
import Datasynth.Lib.SortedEntries

/-!
Blueprints of audit methodologies, generation overlays, and the events and errors
of an engagement.  A hash map that is only looked up is an ordered map.
-/

namespace Datasynth.Audit.Schema

open Datasynth.Lib.CivilCalendar
open Datasynth.Lib.DoubleValues
open Datasynth.Lib.SortedEntries

inductive BindingLevel where
  | requirement
  | guidance
  | informational
  | example
deriving DecidableEq, Repr

structure BlueprintActor where
  id : String
  label : String
  description : Option String
deriving DecidableEq, Repr

structure BlueprintStandard where
  id : String
  title : String
  binding : BindingLevel
deriving DecidableEq, Repr

structure BlueprintEvidence where
  id : String
  evidence_type : String
  description : Option String
  required : Bool
deriving DecidableEq, Repr

structure GateCondition where
  predicate : String
  rationale : Option String
deriving DecidableEq, Repr

structure PhaseGate where
  all_of : List GateCondition
  any_of : List GateCondition
deriving DecidableEq, Repr

structure ProcedureTransition where
  from_state : String
  to_state : String
  command : Option String
  emits : Option String
  guards : List String
deriving DecidableEq, Repr

structure ProcedureAggregate where
  initial_state : String
  states : List String
  transitions : List ProcedureTransition
deriving DecidableEq, Repr

instance : Inhabited ProcedureAggregate := ⟨⟨"", [], []⟩⟩

structure StepGuard where
  guard_type : String
  expression : String
  failure_message : Option String
deriving DecidableEq, Repr

structure EvidenceRef where
  ref_id : String
deriving DecidableEq, Repr

structure StepEvidence where
  template_ref : Option EvidenceRef
  evidence_type : Option String
  required : Bool
  direction : String
deriving DecidableEq, Repr

structure StepStandard where
  ref_id : String
  paragraph : Option String
deriving DecidableEq, Repr

structure DecisionBranch where
  label : String
  target : String
  condition : Option String
deriving DecidableEq, Repr

structure StepDecision where
  question : String
  branches : List DecisionBranch
deriving DecidableEq, Repr

structure BlueprintStep where
  id : String
  name : String
  description : Option String
  actor : Option String
  command : Option String
  emits : Option String
  binding : BindingLevel
  guards : List StepGuard
  evidence : List StepEvidence
  standards : List StepStandard
  decision : Option StepDecision
deriving DecidableEq, Repr

structure BlueprintProcedure where
  id : String
  name : String
  description : Option String
  discriminators : OrderedMap String (List String)
  aggregate : ProcedureAggregate
  steps : List BlueprintStep

structure BlueprintPhase where
  id : String
  name : String
  order : Option ℤ
  description : Option String
  entry_gate : Option PhaseGate
  exit_gate : Option PhaseGate
  procedures : List BlueprintProcedure

structure AuditBlueprint where
  actors : List BlueprintActor
  standards : List BlueprintStandard
  evidence_templates : List BlueprintEvidence
  phases : List BlueprintPhase

def AuditBlueprint.procedures (bp : AuditBlueprint) : List BlueprintProcedure :=
  bp.phases.flatMap (·.procedures)

structure TimingDistribution where
  mu_hours : F64
  sigma_hours : F64
deriving DecidableEq, Repr

structure TransitionDefaults where
  revision_probability : F64
  timing : TimingDistribution
deriving DecidableEq, Repr

structure TransitionConfig where
  defaults : TransitionDefaults
deriving DecidableEq, Repr

structure AnomalyConfig where
  skipped_approval : F64
  late_posting : F64
  missing_evidence : F64
  out_of_sequence : F64
deriving DecidableEq, Repr

structure IterationLimits where
  default : ℕ
  per_procedure : OrderedMap String ℕ

structure GenerationOverlay where
  max_self_loop_iterations : ℕ
  transitions : TransitionConfig
  anomalies : AnomalyConfig
  discriminators : Option (OrderedMap String (List String))
  iteration_limits : IterationLimits

instance : Inhabited GenerationOverlay where
  default :=
    { max_self_loop_iterations := 5
      transitions := ⟨.finite (15 / 100), .finite 24, .finite 8⟩
      anomalies := ⟨.finite (2 / 100), .finite (5 / 100), .finite (3 / 100), .finite (1 / 100)⟩
      discriminators := none
      iteration_limits := ⟨30, .empty⟩ }

/-- A point in time, as the number of minutes since the start of 1970. -/
abbrev NaiveDateTime := ℤ

inductive AuditAnomalyType where
  | skippedApproval
  | latePosting
  | missingEvidence
  | outOfSequence
  | insufficientDocumentation
deriving DecidableEq, Repr

inductive AnomalySeverity where
  | low
  | medium
  | high
  | critical
deriving DecidableEq, Repr

/-- A UUID, as the random bytes it is made of. -/
abbrev Uuid := List (Fin 256)

structure AuditEvent where
  event_id : Uuid
  timestamp : NaiveDateTime
  event_type : String
  procedure_id : String
  step_id : Option String
  phase_id : String
  from_state : Option String
  to_state : Option String
  actor_id : String
  command : String
  evidence_refs : List String
  standards_refs : List String
  is_anomaly : Bool
  anomaly_type : Option AuditAnomalyType
deriving DecidableEq, Repr

structure AuditAnomalyRecord where
  anomaly_id : Uuid
  anomaly_type : AuditAnomalyType
  severity : AnomalySeverity
  procedure_id : String
  step_id : Option String
  timestamp : NaiveDateTime
  description : String
deriving DecidableEq, Repr

structure ValidationViolation where
  location : String
  message : String
deriving DecidableEq, Repr

inductive AuditFsmError where
  | blueprintValidation (violations : List ValidationViolation)
  | dagCycle (procedures : List String)
deriving DecidableEq, Repr

structure EngagementContext where
  engagement_start : Date
deriving DecidableEq, Repr

end Datasynth.Audit.Schema
