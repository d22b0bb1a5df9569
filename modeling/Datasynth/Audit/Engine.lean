import Mathlib.Data.List.Infix
import Datasynth.Audit.Loader

/-!
The engine of an engagement: every procedure's state machine is walked in the order of
the preconditions, with a random choice between transitions and random delays.
-/

namespace Datasynth.Audit.Engine

open Datasynth.Audit.Loader
open Datasynth.Audit.Schema
open Datasynth.Lib.DoubleValues
open Datasynth.Lib.HashIteration
open Datasynth.Lib.SortedEntries

/-- The random number generator and the step dispatcher, whose states are `σ` and `δ`.
`log_normal` draws from the distribution of a mean and a deviation in hours, unless
there is none; `dispatch` adds to the artifacts `A`. -/
structure Services (σ δ A : Type) where
  random_f64 : σ → F64 × σ
  random_bytes : σ → Uuid × σ
  log_normal : F64 → F64 → σ → Option (F64 × σ)
  dispatch : BlueprintStep → String → EngagementContext → δ × A → δ × A
  no_artifacts : A

/-- The accumulators of a run, with the engine's own mutable parts. -/
structure RunAccum (σ δ A : Type) where
  event_log : List AuditEvent
  procedure_states : OrderedMap String String
  step_completions : OrderedMap String Bool
  evidence_states : OrderedMap String String
  anomalies : List AuditAnomalyRecord
  artifacts : A
  current_ts : NaiveDateTime
  rng : σ
  dispatcher : δ

structure AuditFsmEngine (σ δ : Type) where
  blueprint : AuditBlueprint
  overlay : GenerationOverlay
  rng : σ
  preconditions : OrderedMap String (List String)
  dispatcher : δ

structure EngagementResult (A : Type) where
  event_log : List AuditEvent
  procedure_states : OrderedMap String String
  step_completions : OrderedMap String Bool
  evidence_states : OrderedMap String String
  anomalies : List AuditAnomalyRecord
  phases_completed : List String
  total_duration_hours : ℚ
  artifacts : A

section Engine

variable {σ δ A : Type} (services : Services σ δ A)

/-- Sample a delay; a distribution that does not exist gives its mean. -/
def sample_lognormal_hours (mu sigma : F64) (rng : σ) : F64 × σ :=
  let mu := mu.max (1 / 100)
  let sigma := sigma.max (1 / 100)
  match services.log_normal mu sigma rng with
  | some (sample, rng) => (sample.clamp (1 / 10) 200, rng)
  | none => (mu.max (1 / 10), rng)

def RunAccum.delay (acc : RunAccum σ δ A) (mu sigma : F64) : RunAccum σ δ A :=
  let (delay_hours, rng) := sample_lognormal_hours services mu sigma acc.rng
  { acc with current_ts := acc.current_ts + (delay_hours.scale 60).toI64, rng := rng }

def advance_time (timing : TimingDistribution) (acc : RunAccum σ δ A) : RunAccum σ δ A :=
  acc.delay services timing.mu_hours timing.sigma_hours

def advance_step_time (acc : RunAccum σ δ A) : RunAccum σ δ A :=
  acc.delay services (.finite 1) (.finite (1 / 2))

/-- Append an event; its identifier is drawn first. -/
def RunAccum.record (acc : RunAccum σ δ A) (event : Uuid → AuditEvent) : RunAccum σ δ A :=
  let (bytes, rng) := services.random_bytes acc.rng
  { acc with event_log := acc.event_log ++ [event bytes], rng := rng }

def position (states : List String) (state : String) : ℕ := (states.findIdx? (· = state)).getD 0

/-- Select one of the transitions `first :: rest`, which leave the same state.  A
transition to a state further on in the list is a forward one. -/
def select_transition (revision_probability : F64) (states : List String)
    (first : ProcedureTransition) (rest : List ProcedureTransition) (rng : σ) :
    ProcedureTransition × σ :=
  if rest = [] then (first, rng)
  else
    let (roll, rng) := services.random_f64 rng
    let outgoing := first :: rest
    let from_idx := position states first.from_state
    let forward := outgoing.find? fun t => position states t.to_state > from_idx
    let backward := outgoing.find? fun t => position states t.to_state ≤ from_idx
    match if roll.lt revision_probability then backward else none with
    | some revision => (revision, rng)
    | none => (forward.getD first, rng)

/-- Bound the self-loops: the transition to take and the new count, or `none` where there
is nothing left to do but to stop. -/
def boundSelfLoop (max_self_loop_iterations : ℕ) (outgoing : List ProcedureTransition)
    (transition : ProcedureTransition) (self_loop_count : ℕ) : Option (ProcedureTransition × ℕ) :=
  if transition.from_state = transition.to_state then
    if self_loop_count + 1 ≥ max_self_loop_iterations then
      (outgoing.find? fun t => t.from_state ≠ t.to_state).map fun forward => (forward, 0)
    else some (transition, self_loop_count + 1)
  else some (transition, 0)

def contains (text word : String) : Bool := decide (word.toList <:+: text.toList)

def select_actor_for_transition (blueprint : AuditBlueprint) (transition : ProcedureTransition)
    (proc : BlueprintProcedure) : String :=
  let cmd := transition.command.getD ""
  if contains cmd "approve" || contains cmd "issue" then
    (blueprint.actors.head?.map (·.id)).getD "engagement_partner"
  else
    (proc.steps.head?.bind (·.actor)).getD ((blueprint.actors.getLast?.map (·.id)).getD "audit_staff")

/-- The anomalies that may be injected, with their probabilities. -/
def anomalyChecks (cfg : AnomalyConfig) :
    List (F64 × AuditAnomalyType × AnomalySeverity × String) :=
  [(cfg.skipped_approval, .skippedApproval, .high, "Approval step was skipped"),
    (cfg.late_posting, .latePosting, .medium, "Step was posted late"),
    (cfg.missing_evidence, .missingEvidence, .high, "Required evidence was not attached"),
    (cfg.out_of_sequence, .outOfSequence, .medium, "Step executed out of defined sequence")]

/-- Roll for each anomaly in turn; the first one that strikes is recorded. -/
def injectAnomaly (procedure_id step_id : String) (acc : RunAccum σ δ A) :
    List (F64 × AuditAnomalyType × AnomalySeverity × String) →
      Option AuditAnomalyType × RunAccum σ δ A
  | [] => (none, acc)
  | (prob, anomaly_type, severity, desc) :: checks =>
      let (roll, rng) := services.random_f64 acc.rng
      if roll.lt prob then
        let (bytes, rng) := services.random_bytes rng
        let anomaly : AuditAnomalyRecord :=
          { anomaly_id := bytes
            anomaly_type := anomaly_type
            severity := severity
            procedure_id := procedure_id
            step_id := some step_id
            timestamp := acc.current_ts
            description := desc }
        (some anomaly_type, { acc with anomalies := acc.anomalies ++ [anomaly], rng := rng })
      else injectAnomaly procedure_id step_id { acc with rng := rng } checks

def check_anomaly_injection (overlay : GenerationOverlay) (procedure_id step_id : String)
    (acc : RunAccum σ δ A) : Option AuditAnomalyType × RunAccum σ δ A :=
  injectAnomaly services procedure_id step_id acc (anomalyChecks overlay.anomalies)

def evidenceRefs (step : BlueprintStep) : List (String × String) :=
  step.evidence.filterMap fun ev => ev.template_ref.map fun tpl_ref => (tpl_ref.ref_id, ev.direction)

def stepEvent (proc : BlueprintProcedure) (phase_id : String) (step : BlueprintStep)
    (anomaly_type : Option AuditAnomalyType) (timestamp : NaiveDateTime) (event_id : Uuid) :
    AuditEvent where
  event_id := event_id
  timestamp := timestamp
  event_type := "procedure_step"
  procedure_id := proc.id
  step_id := some step.id
  phase_id := phase_id
  from_state := none
  to_state := none
  actor_id := step.actor.getD "audit_staff"
  command := step.command.getD ("execute_" ++ step.id)
  evidence_refs := (evidenceRefs step).map Prod.fst
  standards_refs := step.standards.map (·.ref_id)
  is_anomaly := anomaly_type.isSome
  anomaly_type := anomaly_type

def execute_step (overlay : GenerationOverlay) (context : EngagementContext)
    (proc : BlueprintProcedure) (phase_id : String) (acc : RunAccum σ δ A) (step : BlueprintStep) :
    RunAccum σ δ A :=
  let acc := advance_step_time services acc
  let (anomaly_type, acc) := check_anomaly_injection services overlay proc.id step.id acc
  let acc := { acc with
    evidence_states :=
      (evidenceRefs step).foldl (fun m (e : String × String) => m.insert e.1 e.2)
        acc.evidence_states }
  let acc := acc.record services (stepEvent proc phase_id step anomaly_type acc.current_ts)
  let (dispatcher, artifacts) :=
    services.dispatch step proc.id context (acc.dispatcher, acc.artifacts)
  { acc with
    dispatcher := dispatcher
    artifacts := artifacts
    step_completions := acc.step_completions.insert step.id true }

def execute_steps (overlay : GenerationOverlay) (context : EngagementContext)
    (proc : BlueprintProcedure) (phase_id : String) (acc : RunAccum σ δ A) : RunAccum σ δ A :=
  proc.steps.foldl (execute_step services overlay context proc phase_id) acc

def transitionEvent (blueprint : AuditBlueprint) (proc : BlueprintProcedure) (phase_id : String)
    (current_state : String) (transition : ProcedureTransition) (timestamp : NaiveDateTime)
    (event_id : Uuid) : AuditEvent where
  event_id := event_id
  timestamp := timestamp
  event_type := "state_transition"
  procedure_id := proc.id
  step_id := none
  phase_id := phase_id
  from_state := some current_state
  to_state := some transition.to_state
  actor_id := select_actor_for_transition blueprint transition proc
  command := transition.command.getD "transition"
  evidence_refs := []
  standards_refs := []
  is_anomaly := false
  anomaly_type := none

/-- The state in which the steps of a procedure are executed. -/
def workState (agg : ProcedureAggregate) : String := agg.states[1]?.getD "in_progress"

/-- The event of a transition, then the new state. -/
def emitTransition (engine : AuditFsmEngine σ δ) (phase_id : String) (proc : BlueprintProcedure)
    (current_state : String) (transition : ProcedureTransition) (acc : RunAccum σ δ A) :
    RunAccum σ δ A :=
  let acc := acc.record services
    (transitionEvent engine.blueprint proc phase_id current_state transition acc.current_ts)
  { acc with procedure_states := acc.procedure_states.insert proc.id transition.to_state }

/-- Steps are executed on entering the work state and on every self-loop. -/
def executesSteps (agg : ProcedureAggregate) (previous_state current_state : String) : Bool :=
  let work_state := workState agg
  let is_self_loop := previous_state = current_state
  let entering_work := current_state = work_state ∧ previous_state ≠ work_state
  entering_work ∨ is_self_loop

def takeTransition (engine : AuditFsmEngine σ δ) (context : EngagementContext)
    (phase_id : String) (proc : BlueprintProcedure) (current_state : String)
    (transition : ProcedureTransition) (acc : RunAccum σ δ A) : RunAccum σ δ A :=
  let acc := emitTransition services engine phase_id proc current_state transition acc
  let acc :=
    if executesSteps proc.aggregate current_state transition.to_state then
      execute_steps services engine.overlay context proc phase_id acc
    else acc
  advance_time services engine.overlay.transitions.defaults.timing acc

/-- Walk a procedure's state machine for at most the given number of iterations. -/
def walkProcedure (engine : AuditFsmEngine σ δ) (context : EngagementContext) (phase_id : String)
    (proc : BlueprintProcedure) : ℕ → String → ℕ → RunAccum σ δ A → RunAccum σ δ A
  | 0, _, _, acc => acc
  | iterations + 1, current_state, self_loop_count, acc =>
      match proc.aggregate.transitions.filter fun t => t.from_state = current_state with
      | [] => acc
      | first :: rest =>
          let (selected, rng) := select_transition services
            engine.overlay.transitions.defaults.revision_probability proc.aggregate.states
            first rest acc.rng
          match boundSelfLoop engine.overlay.max_self_loop_iterations (first :: rest) selected
            self_loop_count with
          | none => { acc with rng := rng }
          | some (transition, self_loop_count) =>
              walkProcedure engine context phase_id proc iterations transition.to_state
                self_loop_count
                (takeTransition services engine context phase_id proc current_state transition
                  { acc with rng := rng })

/-- The procedure is excluded by the overlay's discriminators. -/
def should_skip_procedure (overlay : GenerationOverlay) (proc : BlueprintProcedure) : Bool :=
  match overlay.discriminators with
  | none => false
  | some overlay_discs =>
      if proc.discriminators.entries = [] then false
      else overlay_discs.entries.any fun entry =>
        match proc.discriminators.find? entry.1 with
        | none => false
        | some proc_values => !proc_values.any fun v => entry.2.contains v

def IterationLimits.limitOf (limits : IterationLimits) (proc_id : String) : ℕ :=
  (limits.per_procedure.find? proc_id).getD limits.default

def procLookup (blueprint : AuditBlueprint) : OrderedMap String (String × BlueprintProcedure) :=
  .ofList (blueprint.phases.flatMap fun phase =>
    phase.procedures.map fun proc => (proc.id, phase.id, proc))

/-- The procedure is not run: it is filtered out, or there is no state machine. -/
def isExcluded (overlay : GenerationOverlay) (proc : BlueprintProcedure) : Bool :=
  should_skip_procedure overlay proc || proc.aggregate.initial_state = "" ||
    proc.aggregate.states = []

def runProcedure (engine : AuditFsmEngine σ δ) (context : EngagementContext)
    (acc : RunAccum σ δ A) (proc_id : String) : RunAccum σ δ A :=
  match (procLookup engine.blueprint).find? proc_id with
  | none => acc
  | some (phase_id, proc) =>
      if isExcluded engine.overlay proc then acc
      else
        walkProcedure services engine context phase_id proc
          (IterationLimits.limitOf engine.overlay.iteration_limits proc_id)
          proc.aggregate.initial_state 0
          { acc with
            procedure_states :=
              acc.procedure_states.insert proc_id proc.aggregate.initial_state }

/-- A gate condition `procedure.<id>.<state>` holds. -/
def gateMet (procedure_states : OrderedMap String String) (cond : GateCondition) : Bool :=
  match predicateParts cond.predicate with
  | [first, proc_id, required_state] =>
      first = "procedure" && procedure_states.find? proc_id = some required_state
  | _ => false

/-- The phases whose exit gate is met; continuous phases are never completed. -/
def compute_completed_phases (blueprint : AuditBlueprint)
    (procedure_states : OrderedMap String String) : List String :=
  (blueprint.phases.filter fun phase =>
    !((phase.order.map fun order => decide (order < 0)).getD false) &&
      ((phase.exit_gate.map fun gate => gate.all_of.all (gateMet procedure_states)).getD true)).map
    (·.id)

def AuditFsmEngine.bwp (engine : AuditFsmEngine σ δ) : BlueprintWithPreconditions :=
  ⟨engine.blueprint, engine.preconditions⟩

/-- Nine o'clock on the first day. -/
def startOf (context : EngagementContext) : NaiveDateTime :=
  context.engagement_start.dayNumber * 1440 + 9 * 60

def startAccum (engine : AuditFsmEngine σ δ) (context : EngagementContext) : RunAccum σ δ A where
  event_log := []
  procedure_states := .empty
  step_completions := .empty
  evidence_states := .empty
  anomalies := []
  artifacts := services.no_artifacts
  current_ts := startOf context
  rng := engine.rng
  dispatcher := engine.dispatcher

def finishRun (engine : AuditFsmEngine σ δ) (context : EngagementContext) (acc : RunAccum σ δ A) :
    EngagementResult A × AuditFsmEngine σ δ :=
  ({ event_log := acc.event_log
     procedure_states := acc.procedure_states
     step_completions := acc.step_completions
     evidence_states := acc.evidence_states
     anomalies := acc.anomalies
     phases_completed := compute_completed_phases engine.blueprint acc.procedure_states
     total_duration_hours := ((acc.current_ts - startOf context : ℤ) : ℚ) / 60
     artifacts := acc.artifacts },
    { engine with rng := acc.rng, dispatcher := acc.dispatcher })

/-- Run an engagement; the engine is left with its generators advanced. -/
def run_engagement (order : HashOrder) (engine : AuditFsmEngine σ δ)
    (context : EngagementContext) :
    Except AuditFsmError (EngagementResult A × AuditFsmEngine σ δ) :=
  (engine.bwp.topological_sort order).map fun exec_order =>
    finishRun engine context
      (exec_order.foldl (runProcedure services engine context) (startAccum services engine context))

end Engine

end Datasynth.Audit.Engine
