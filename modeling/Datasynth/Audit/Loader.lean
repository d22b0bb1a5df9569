import Datasynth.Audit.Schema
import Datasynth.Lib.ExceptRuns
import Datasynth.Lib.HashIteration
import Datasynth.Lib.TopologicalOrder

/-!
Loading a blueprint from its YAML document, validating it and sorting its procedures
by their preconditions.
-/

namespace Datasynth.Audit.Loader

open Datasynth.Audit.Schema
open Datasynth.Lib.HashIteration
open Datasynth.Lib.SortedEntries
open Datasynth.Lib.TopologicalOrder

/-- A YAML value of unknown shape; `scalar` stands for all that is not text. -/
inductive YamlValue where
  | string (s : String)
  | sequence (items : List YamlValue)
  | mapping (entries : List (YamlValue × YamlValue))
  | scalar

structure RawActor where
  id : String
  name : String
  responsibilities : List String

structure RawStandard where
  ref_id : String
  title : String
  binding : String

structure RawEvidence where
  id : String
  name : String
  evidence_type : String

structure RawGateCondition where
  procedure : String
  state : String

structure RawGate where
  all_of : List RawGateCondition
  any_of : List RawGateCondition

structure RawPhase where
  id : String
  name : String
  order : Option ℤ
  description : Option String
  gate : Option RawGate

structure RawTransition where
  from_state : String
  to_state : String
  command : Option String
  emits : Option String
  guards : List String

structure RawAggregate where
  initial_state : String
  states : List String
  transitions : List RawTransition

structure RawStepGuard where
  guard_type : String
  fields : List String

structure RawEvidenceRef where
  ref_id : String
  evidence_type : Option String

structure RawStepEvidence where
  inputs : List RawEvidenceRef
  outputs : List RawEvidenceRef

structure RawStepStandard where
  ref_id : String
  paragraphs : List String

structure RawBranch where
  label : String
  description : Option String
  next_step : Option String

structure RawDecision where
  condition : String
  branches : List RawBranch

structure RawStep where
  id : String
  action : Option String
  actor : Option String
  description : Option String
  binding : String
  command : Option String
  emits : Option String
  guards : List RawStepGuard
  evidence : Option RawStepEvidence
  standards : List RawStepStandard
  decisions : List RawDecision

structure RawProcedure where
  id : String
  phase : String
  title : String
  discriminators : Option YamlValue
  aggregate : Option RawAggregate
  steps : List RawStep
  preconditions : List String

structure RawBlueprint where
  actors : List RawActor
  standards_catalog : List RawStandard
  evidence_catalog : List RawEvidence
  phases : List RawPhase
  procedures : List RawProcedure

def convert_binding (s : String) : BindingLevel :=
  match String.ofList (s.toList.map Char.toLower) with
  | "guidance" => .guidance
  | "informational" => .informational
  | "example" => .example
  | _ => .requirement

def YamlValue.text? : YamlValue → Option String
  | string s => some s
  | _ => none

def convert_discriminators_value (value : Option YamlValue) : OrderedMap String (List String) :=
  match value with
  | some (.mapping entries) =>
      entries.foldl (fun result entry =>
        match entry with
        | (.string key, .sequence seq) => result.insert key (seq.filterMap YamlValue.text?)
        | _ => result) .empty
  | _ => .empty

def convertActor (a : RawActor) : BlueprintActor where
  id := a.id
  label := a.name
  description :=
    if a.responsibilities = [] then none else some ("; ".intercalate a.responsibilities)

def convertStandard (s : RawStandard) : BlueprintStandard where
  id := s.ref_id
  title := s.title
  binding := convert_binding s.binding

def convertEvidence (e : RawEvidence) : BlueprintEvidence where
  id := e.id
  evidence_type := e.evidence_type
  description := some e.name
  required := false

def convertCondition (c : RawGateCondition) : GateCondition where
  predicate := "procedure." ++ c.procedure ++ "." ++ c.state
  rationale := none

def convertGate (g : RawGate) : PhaseGate where
  all_of := g.all_of.map convertCondition
  any_of := g.any_of.map convertCondition

def convertTransition (t : RawTransition) : ProcedureTransition where
  from_state := t.from_state
  to_state := t.to_state
  command := t.command
  emits := t.emits
  guards := t.guards

def convertAggregate (agg : RawAggregate) : ProcedureAggregate where
  initial_state := agg.initial_state
  states := agg.states
  transitions := agg.transitions.map convertTransition

def convertEvidenceRef (required : Bool) (direction : String) (ev : RawEvidenceRef) :
    StepEvidence where
  template_ref := some ⟨ev.ref_id⟩
  evidence_type := ev.evidence_type
  required := required
  direction := direction

def convertDecision (d : RawDecision) : StepDecision where
  question := d.condition
  branches := d.branches.map fun b => ⟨b.label, b.next_step.getD "", b.description⟩

def convert_raw_step (step : RawStep) : BlueprintStep where
  id := step.id
  name := step.action.getD ""
  description := step.description
  actor := step.actor
  command := step.command
  emits := step.emits
  binding := convert_binding step.binding
  guards := step.guards.map fun g => ⟨g.guard_type, ", ".intercalate g.fields, none⟩
  evidence :=
    match step.evidence with
    | none => []
    | some ev =>
        ev.inputs.map (convertEvidenceRef false "consumes") ++
          ev.outputs.map (convertEvidenceRef true "produces")
  standards := step.standards.map fun s =>
    ⟨s.ref_id, if s.paragraphs = [] then none else some (", ".intercalate s.paragraphs)⟩
  decision := step.decisions.head?.map convertDecision

def convert_raw_procedure (proc : RawProcedure) : BlueprintProcedure where
  id := proc.id
  name := proc.title
  description := none
  discriminators := convert_discriminators_value proc.discriminators
  aggregate := (proc.aggregate.map convertAggregate).getD default
  steps := proc.steps.map convert_raw_step

def groupByPhase (procedures : List RawProcedure) : OrderedMap String (List RawProcedure) :=
  procedures.foldl
    (fun groups proc => groups.upsert proc.phase fun group => group.getD [] ++ [proc]) .empty

def convertPhase (p : RawPhase) (procs : List RawProcedure) : BlueprintPhase where
  id := p.id
  name := p.name
  order := p.order
  description := p.description
  entry_gate := none
  exit_gate := p.gate.map convertGate
  procedures := procs.map convert_raw_procedure

/-- Each phase takes its group of procedures; a later phase of the same id finds none. -/
def convertPhases (proc_by_phase : OrderedMap String (List RawProcedure)) :
    List RawPhase → List BlueprintPhase
  | [] => []
  | p :: phases =>
      convertPhase p ((proc_by_phase.find? p.id).getD []) ::
        convertPhases (proc_by_phase.erase p.id) phases

def convert_raw_to_blueprint (raw : RawBlueprint) : AuditBlueprint where
  actors := raw.actors.map convertActor
  standards := raw.standards_catalog.map convertStandard
  evidence_templates := raw.evidence_catalog.map convertEvidence
  phases := convertPhases (groupByPhase raw.procedures) raw.phases

/-- The preconditions of the YAML's procedures, and none for any other procedure. -/
def extract_preconditions_from_yaml (raw : RawBlueprint) (bp : AuditBlueprint) :
    OrderedMap String (List String) :=
  bp.procedures.foldl (fun preconditions proc => preconditions.upsert proc.id (·.getD []))
    (raw.procedures.foldl
      (fun preconditions proc => preconditions.insert proc.id proc.preconditions) .empty)

structure BlueprintWithPreconditions where
  blueprint : AuditBlueprint
  preconditions : OrderedMap String (List String)

/-- What a YAML file that parses as `raw` is loaded as. -/
def load_from_file (raw : RawBlueprint) : BlueprintWithPreconditions :=
  let bp := convert_raw_to_blueprint raw
  ⟨bp, extract_preconditions_from_yaml raw bp⟩

/-- The parts of a text between the first `n - 1` separators. -/
def splitn (sep : Char) : ℕ → List Char → List (List Char)
  | 0, _ => []
  | 1, s => [s]
  | n + 2, s =>
      match s.span (· ≠ sep) with
      | (part, []) => [part]
      | (part, _ :: rest) => part :: splitn sep (n + 1) rest

def predicateParts (predicate : String) : List String :=
  (splitn '.' 3 predicate.toList).map String.ofList

def extract_procedure_id_from_predicate (predicate : String) : Option String :=
  match predicateParts predicate with
  | first :: id :: _ => if first = "procedure" then some id else none
  | _ => none

section Validation

variable (order : HashOrder)

def missingPreconditions (bp : AuditBlueprint) (preconditions : OrderedMap String (List String)) :
    List ValidationViolation :=
  (order.iter preconditions.entries).flatMap fun entry =>
    (entry.2.filter fun dep => dep ∉ bp.procedures.map (·.id)).map fun dep =>
      ⟨"procedure." ++ entry.1, "precondition '" ++ dep ++ "' not found in procedures"⟩

/-- A pass over all steps: one violation for each reference that is not declared. -/
def stepViolations (bp : AuditBlueprint) (references : BlueprintStep → List String)
    (declared : List String) (message : String → String) : List ValidationViolation :=
  bp.procedures.flatMap fun proc =>
    proc.steps.flatMap fun step =>
      ((references step).filter fun ref => ref ∉ declared).map fun ref =>
        ⟨"procedure." ++ proc.id ++ ".step." ++ step.id, message ref⟩

def actorViolations (bp : AuditBlueprint) : List ValidationViolation :=
  stepViolations bp (fun step => step.actor.toList) (bp.actors.map (·.id))
    fun actor => "actor '" ++ actor ++ "' not found in actors list"

def evidenceViolations (bp : AuditBlueprint) : List ValidationViolation :=
  stepViolations bp
    (fun step => step.evidence.filterMap fun ev => ev.template_ref.map (·.ref_id))
    (bp.evidence_templates.map (·.id))
    fun ref => "evidence ref '" ++ ref ++ "' not found in evidence_catalog"

def standardViolations (bp : AuditBlueprint) : List ValidationViolation :=
  stepViolations bp (fun step => step.standards.map (·.ref_id)) (bp.standards.map (·.id))
    fun ref => "standards ref '" ++ ref ++ "' not found in standards_catalog"

def gateViolations (bp : AuditBlueprint) : List ValidationViolation :=
  bp.phases.flatMap fun phase =>
    (phase.entry_gate.toList ++ phase.exit_gate.toList).flatMap fun gate =>
      (((gate.all_of ++ gate.any_of).filterMap fun cond =>
          extract_procedure_id_from_predicate cond.predicate).filter
            fun proc_id => proc_id ∉ bp.procedures.map (·.id)).map fun proc_id =>
        ⟨"phase." ++ phase.id ++ ".gate",
          "gate references procedure '" ++ proc_id ++ "' not found in procedures"⟩

def collect_structural_violations (bp : AuditBlueprint)
    (preconditions : Option (OrderedMap String (List String))) : List ValidationViolation :=
  (preconditions.toList.flatMap fun preconds => missingPreconditions order bp preconds) ++
    actorViolations bp ++ evidenceViolations bp ++ standardViolations bp ++ gateViolations bp

/-- In-degrees and dependents after one precondition `edge.1` of `edge.2`. -/
def addEdge (tables : OrderedMap String ℕ × OrderedMap String (List String))
    (edge : String × String) : OrderedMap String ℕ × OrderedMap String (List String) :=
  (tables.1.upsert edge.2 fun degree => degree.getD 0 + 1,
    tables.2.upsert edge.1 fun dependents => dependents.getD [] ++ [edge.2])

/-- The preconditions between procedures, each before its dependent, as they are visited. -/
def preconditionEdges (known : String → Bool) (all_ids : List String)
    (preconditions : OrderedMap String (List String)) : List (String × String) :=
  ((order.iter preconditions.entries).filter fun entry => known entry.1).flatMap fun entry =>
    (entry.2.filter fun dep => dep ∈ all_ids).map fun dep => (dep, entry.1)

def preconditionTables (edges : List (String × String)) (all_ids : List String) :
    OrderedMap String ℕ × OrderedMap String (List String) :=
  edges.foldl addEdge (all_ids.foldl (fun in_degree id => in_degree.insert id 0) .empty, .empty)

/-- Kahn's algorithm over the procedures; `known` are the procedures whose preconditions
are looked at. -/
def sortProcedures (known : String → Bool) (bp : AuditBlueprint)
    (preconditions : OrderedMap String (List String)) : Except AuditFsmError (List String) :=
  let all_ids := bp.procedures.map (·.id)
  match missingPreconditions order bp preconditions with
  | violation :: _ => .error (.blueprintValidation [violation])
  | [] =>
      let tables := preconditionTables (preconditionEdges order known all_ids preconditions) all_ids
      let sorted := kahn (fun node => (tables.2.find? node).getD []) tables.1
      if sorted.length ≠ all_ids.length then
        .error (.dagCycle (all_ids.filter fun id => id ∉ sorted))
      else .ok sorted

/-- The sort of `validate_blueprint`: entries of unknown procedures count as well. -/
def topological_sort_procedures (bp : AuditBlueprint)
    (preconditions : OrderedMap String (List String)) : Except AuditFsmError (List String) :=
  sortProcedures order (fun _ => true) bp preconditions

def topological_sort_with_preconditions (bp : AuditBlueprint)
    (preconditions : OrderedMap String (List String)) : Except AuditFsmError (List String) :=
  sortProcedures order (fun proc_id => proc_id ∈ bp.procedures.map (·.id)) bp preconditions

def reportViolations (violations : List ValidationViolation) : Except AuditFsmError Unit :=
  if violations = [] then .ok () else .error (.blueprintValidation violations)

/-- Validation against the preconditions of the built-in YAML, `builtin`. -/
def validate_blueprint (builtin : RawBlueprint) (bp : AuditBlueprint) :
    Except AuditFsmError Unit :=
  let violations := collect_structural_violations order bp none
  (topological_sort_procedures order bp (extract_preconditions_from_yaml builtin bp)).bind fun _ =>
    reportViolations violations

def validate_blueprint_with_preconditions (bp : AuditBlueprint)
    (preconditions : OrderedMap String (List String)) : Except AuditFsmError Unit :=
  let violations := collect_structural_violations order bp (some preconditions)
  (topological_sort_with_preconditions order bp preconditions).bind fun _ =>
    reportViolations violations

def BlueprintWithPreconditions.validate (bwp : BlueprintWithPreconditions) :
    Except AuditFsmError Unit :=
  validate_blueprint_with_preconditions order bwp.blueprint bwp.preconditions

def BlueprintWithPreconditions.topological_sort (bwp : BlueprintWithPreconditions) :
    Except AuditFsmError (List String) :=
  topological_sort_with_preconditions order bwp.blueprint bwp.preconditions

end Validation

end Datasynth.Audit.Loader
