import Datasynth.Audit.LoadedBlueprints

/-!
Validation of a parsed blueprint against the preconditions of a built-in one, next to
validation of a loaded file against its own: when the two agree.
-/

namespace Datasynth.Audit.BuiltinPreconditions

open Datasynth.Audit.Loader
open Datasynth.Audit.LoadedBlueprints
open Datasynth.Audit.ProcedureOrder
open Datasynth.Audit.Schema
open Datasynth.Lib.ExceptRuns
open Datasynth.Lib.HashIteration
open Datasynth.Lib.SortedEntries
open Datasynth.Lib.TopologicalOrder

inductive BuiltinBlueprint where
  | fsa
  | ia
  | kpmg
  | pwc
  | deloitte
  | eyGamLite
  | soc2
  | pcaob
  | regulatory
deriving DecidableEq, Repr

/-- A YAML document: what its methodology section says and the rest of it. -/
structure YamlDocument where
  framework : String
  name : String
  content : RawBlueprint

def YamlDocument.blueprint (doc : YamlDocument) : AuditBlueprint :=
  convert_raw_to_blueprint doc.content

def contains (name part : String) : Bool :=
  name.toList.tails.any fun rest => part.toList.isPrefixOf rest

/-- The built-in blueprint that a framework and a name stand for. -/
def builtinOf (framework name : String) : BuiltinBlueprint :=
  match framework with
  | "IIA-GIAS" => .ia
  | "AICPA-TSC" => .soc2
  | "PCAOB" => .pcaob
  | "REGULATORY" => .regulatory
  | "ISA" =>
      if contains name "KPMG" then .kpmg
      else if contains name "PwC" then .pwc
      else if contains name "Deloitte" then .deloitte
      else if contains name "EY" then .eyGamLite
      else .fsa
  | _ => .fsa

def extract_preconditions_from_builtin (builtins : BuiltinBlueprint → RawBlueprint)
    (doc : YamlDocument) : OrderedMap String (List String) :=
  extract_preconditions_from_yaml (builtins (builtinOf doc.framework doc.name)) doc.blueprint

def validateParsed (builtins : BuiltinBlueprint → RawBlueprint) (order : HashOrder)
    (doc : YamlDocument) : Except AuditFsmError Unit :=
  validate_blueprint order (builtins (builtinOf doc.framework doc.name)) doc.blueprint

def validateLoaded (order : HashOrder) (doc : YamlDocument) : Except AuditFsmError Unit :=
  (load_from_file doc.content).validate order

/-- Both validations accept the document or both reject it. -/
def SameVerdict (builtins : BuiltinBlueprint → RawBlueprint) (doc : YamlDocument) : Prop :=
  ∀ order order', (validateParsed builtins order doc).isOk = (validateLoaded order' doc).isOk

/-- `dep` is a precondition of `id`. -/
def Requires (preconditions : OrderedMap String (List String)) (dep id : String) : Prop :=
  ∃ deps, preconditions.find? id = some deps ∧ dep ∈ deps

def AcyclicPreconditions (preconditions : OrderedMap String (List String)) : Prop :=
  ∀ id, ¬ Relation.TransGen (Requires preconditions) id id

def Declared (ids : List String) (preconditions : OrderedMap String (List String)) : Prop :=
  ∀ dep id, Requires preconditions dep id → dep ∈ ids

/-- The procedures that have preconditions, whether the document has them or not. -/
def dependents (preconditions : OrderedMap String (List String)) : Finset String :=
  ((preconditions.entries.filter fun e => e.2 ≠ []).map Prod.fst).toFinset

/-- The preconditions that a YAML document gives its procedures. -/
def ownPreconditions (raw : RawBlueprint) : OrderedMap String (List String) :=
  raw.procedures.foldl
    (fun preconditions proc => preconditions.insert proc.id proc.preconditions) .empty

/-- No reference of a step or a gate is undeclared. -/
def WellReferenced (bp : AuditBlueprint) : Prop :=
  actorViolations bp = [] ∧ evidenceViolations bp = [] ∧ standardViolations bp = [] ∧
    gateViolations bp = []

section Extraction

theorem find?_upsertIds (procedures : List BlueprintProcedure)
    (m : OrderedMap String (List String)) (id : String) :
    ((procedures.foldl (fun preconditions proc => preconditions.upsert proc.id (·.getD [])) m).find?
      id).getD [] = (m.find? id).getD [] := by
  induction procedures generalizing m with
  | nil => rfl
  | cons proc procedures ih =>
      rw [List.foldl_cons, ih, OrderedMap.find?_upsert]
      split
      · rename_i hid
        rw [hid, Option.getD_some]
      · rfl

theorem requires_iff {preconditions : OrderedMap String (List String)} {dep id : String} :
    Requires preconditions dep id ↔ dep ∈ (preconditions.find? id).getD [] := by
  rw [Requires]
  cases preconditions.find? id with
  | none => simp
  | some deps => simp

theorem requires_extract (raw : RawBlueprint) (bp : AuditBlueprint) :
    Requires (extract_preconditions_from_yaml raw bp) = Requires (ownPreconditions raw) := by
  funext dep id
  rw [requires_iff, requires_iff, extract_preconditions_from_yaml, find?_upsertIds]
  rfl

theorem mem_dependents_iff {preconditions : OrderedMap String (List String)} {id : String} :
    id ∈ dependents preconditions ↔ ∃ dep, Requires preconditions dep id := by
  rw [dependents, List.mem_toFinset, List.mem_map]
  constructor
  · rintro ⟨⟨id', deps⟩, hmem, rfl⟩
    rw [List.mem_filter, OrderedMap.mem_entries_iff, decide_eq_true_eq] at hmem
    obtain ⟨dep, hdep⟩ := List.exists_mem_of_ne_nil deps hmem.2
    exact ⟨dep, deps, hmem.1, hdep⟩
  · rintro ⟨dep, deps, hfind, hdep⟩
    refine ⟨(id, deps), ?_, rfl⟩
    rw [List.mem_filter, OrderedMap.mem_entries_iff, decide_eq_true_eq]
    exact ⟨hfind, List.ne_nil_of_mem hdep⟩

end Extraction

section Sorting

variable {order : HashOrder} {bp : AuditBlueprint}
  {preconditions : OrderedMap String (List String)}

variable (order) in
theorem missingPreconditions_eq_nil_iff :
    missingPreconditions order bp preconditions = [] ↔
      Declared (bp.procedures.map (·.id)) preconditions := by
  constructor
  · rintro h dep id ⟨deps, hfind, hdep⟩
    exact mem_of_missingPreconditions_eq_nil h hfind hdep
  · intro h
    rw [missingPreconditions, List.flatMap_eq_nil_iff]
    rintro ⟨id, deps⟩ hentry
    rw [(order.perm _).mem_iff, OrderedMap.mem_entries_iff] at hentry
    rw [List.map_eq_nil_iff, List.filter_eq_nil_iff]
    intro dep hdep hmissing
    exact of_decide_eq_true hmissing (h dep id ⟨deps, hentry, hdep⟩)

theorem mem_edges_iff {known : String → Bool} {ids : List String} {dep id : String} :
    (dep, id) ∈ preconditionEdges order known ids preconditions ↔
      known id = true ∧ dep ∈ ids ∧ Requires preconditions dep id :=
  mem_preconditionEdges_iff

theorem acyclic_edges {known : String → Bool} {ids : List String}
    (h : AcyclicPreconditions preconditions) :
    Acyclic (preconditionEdges order known ids preconditions) := by
  intro id hcycle
  apply h id
  refine Relation.TransGen.mono ?_ _ _ hcycle
  intro dep id hedge
  exact (mem_edges_iff.mp hedge).2.2

/-- What is reached from a declared procedure goes through declared procedures only. -/
theorem transGen_edges_of_requires {ids : List String} (hdeclared : Declared ids preconditions)
    {dep id : String} (hpath : Relation.TransGen (Requires preconditions) dep id)
    (hid : id ∈ ids) :
    Relation.TransGen (fun dep id =>
      (dep, id) ∈ preconditionEdges order (fun id => id ∈ ids) ids preconditions) dep id := by
  induction hpath with
  | single hreq => exact .single (mem_edges_iff.mpr ⟨decide_eq_true hid, hdeclared _ _ hreq, hreq⟩)
  | tail _ hreq ih =>
      have hmid := hdeclared _ _ hreq
      exact (ih hmid).tail (mem_edges_iff.mpr ⟨decide_eq_true hid, hmid, hreq⟩)

theorem acyclic_of_acyclic_edges {ids : List String} (hdeclared : Declared ids preconditions)
    (h : Acyclic (preconditionEdges order (fun id => id ∈ ids) ids preconditions)) :
    AcyclicPreconditions preconditions := by
  intro id hcycle
  obtain ⟨next, hnext, -⟩ := Relation.TransGen.head'_iff.mp hcycle
  exact h id (transGen_edges_of_requires hdeclared hcycle (hdeclared _ _ hnext))

/-- Without a cycle every procedure and every dependent is sorted. -/
theorem length_sorted {edges : List (String × String)} {ids : List String}
    (hsources : ∀ e ∈ edges, e.1 ∈ ids) (hacyclic : Acyclic edges) :
    (kahn (fun node => ((preconditionTables edges ids).2.find? node).getD [])
      (preconditionTables edges ids).1).length =
      (ids.toFinset ∪ (edges.map Prod.snd).toFinset).card := by
  have hschedule := schedule_preconditionTables edges ids hsources
  rw [← List.toFinset_card_of_nodup hschedule.nodup]
  congr 1
  ext v
  rw [List.mem_toFinset, Finset.mem_union, List.mem_toFinset, List.mem_toFinset,
    ← mem_keys_preconditionTables]
  constructor
  · intro hv
    exact hschedule.subset hv
  · intro hv
    exact mem_sorted_preconditionTables hsources hacyclic hv

theorem isOk_sortProcedures_iff {known : String → Bool} :
    (sortProcedures order known bp preconditions).isOk = true ↔
      Declared (bp.procedures.map (·.id)) preconditions ∧
        (kahn (fun node => ((preconditionTables (preconditionEdges order known
          (bp.procedures.map (·.id)) preconditions) (bp.procedures.map (·.id))).2.find? node).getD
            []) (preconditionTables (preconditionEdges order known (bp.procedures.map (·.id))
              preconditions) (bp.procedures.map (·.id))).1).length =
          (bp.procedures.map (·.id)).length := by
  rw [← missingPreconditions_eq_nil_iff order, sortProcedures]
  cases hmissing : missingPreconditions order bp preconditions with
  | cons violation rest => simp [Except.isOk, Except.toBool]
  | nil =>
      simp only [true_and]
      split
      · rename_i hlength
        simpa [Except.isOk, Except.toBool] using hlength
      · rename_i hlength
        rw [not_not] at hlength
        simpa [Except.isOk, Except.toBool] using hlength

theorem wellReferenced_iff (bp : AuditBlueprint) :
    WellReferenced bp ↔
      actorViolations bp ++ evidenceViolations bp ++ standardViolations bp ++ gateViolations bp =
        [] := by
  rw [WellReferenced, List.append_eq_nil_iff, List.append_eq_nil_iff, List.append_eq_nil_iff,
    and_assoc, and_assoc]

theorem isOk_sort_and_report_iff {ε α : Type} {sorting : Except ε α} {report : Except ε Unit} :
    (sorting.bind fun _ => report).isOk = true ↔ sorting.isOk = true ∧ report.isOk = true := by
  cases sorting with
  | error e => simp [Except.bind, Except.isOk, Except.toBool]
  | ok sorted => simp [Except.bind, Except.isOk, Except.toBool]

theorem isOk_reportViolations_iff {violations : List ValidationViolation} :
    (reportViolations violations).isOk = true ↔ violations = [] := by
  rw [reportViolations]
  split
  · rename_i h
    simpa [Except.isOk, Except.toBool] using h
  · rename_i h
    simpa [Except.isOk, Except.toBool] using h

/-- The file's own preconditions are declared and acyclic, and no id is used twice. -/
def WellOrdered (ids : List String) (preconditions : OrderedMap String (List String)) : Prop :=
  ids.Nodup ∧ Declared ids preconditions ∧ AcyclicPreconditions preconditions

/-- The built-in preconditions name procedures of the file only, and sorting them counts
as many procedures as the file has. -/
def CountsAlike (ids : List String) (preconditions : OrderedMap String (List String)) : Prop :=
  Declared ids preconditions ∧
    (ids.toFinset ∪ dependents preconditions).card = ids.length

variable (order) in
theorem isOk_topological_sort_procedures_iff (hacyclic : AcyclicPreconditions preconditions) :
    (topological_sort_procedures order bp preconditions).isOk = true ↔
      CountsAlike (bp.procedures.map (·.id)) preconditions := by
  rw [topological_sort_procedures, isOk_sortProcedures_iff, CountsAlike]
  apply and_congr_right
  intro hdeclared
  rw [length_sorted (fun e he => (mem_edges_iff.mp he).2.1) (acyclic_edges hacyclic)]
  have hdependents : ((preconditionEdges order (fun _ => true) (bp.procedures.map (·.id))
      preconditions).map Prod.snd).toFinset = dependents preconditions := by
    ext id
    rw [List.mem_toFinset, List.mem_map, mem_dependents_iff]
    constructor
    · rintro ⟨⟨dep, id'⟩, hedge, rfl⟩
      exact ⟨dep, (mem_edges_iff.mp hedge).2.2⟩
    · rintro ⟨dep, hreq⟩
      exact ⟨(dep, id), mem_edges_iff.mpr ⟨rfl, hdeclared dep id hreq, hreq⟩, rfl⟩
  rw [hdependents]

variable (order bp) in
theorem isOk_topological_sort_with_preconditions_iff :
    (topological_sort_with_preconditions order bp preconditions).isOk = true ↔
      WellOrdered (bp.procedures.map (·.id)) preconditions := by
  rw [topological_sort_with_preconditions, isOk_sortProcedures_iff]
  have hsources : ∀ e ∈ preconditionEdges order (fun id => id ∈ bp.procedures.map (·.id))
      (bp.procedures.map (·.id)) preconditions, e.1 ∈ bp.procedures.map (·.id) :=
    fun e he => (mem_edges_iff.mp he).2.1
  have htargets : ∀ e ∈ preconditionEdges order (fun id => id ∈ bp.procedures.map (·.id))
      (bp.procedures.map (·.id)) preconditions, e.2 ∈ bp.procedures.map (·.id) :=
    fun e he => of_decide_eq_true (mem_edges_iff.mp he).1
  constructor
  · rintro ⟨hdeclared, hlength⟩
    have hschedule := schedule_preconditionTables _ _ hsources
    have hsubset := hschedule.subset
    -- As many sorted procedures as there are ids: every procedure is sorted, once.
    have hperm := (List.subperm_of_subset hschedule.nodup fun v hv => by
      rcases mem_keys_preconditionTables.mp (hsubset hv) with hmem | hmem
      · exact hmem
      · obtain ⟨e, he, rfl⟩ := List.mem_map.mp hmem
        exact htargets e he).perm_of_length_le hlength.ge
    refine ⟨hperm.nodup_iff.mp hschedule.nodup, hdeclared, ?_⟩
    apply acyclic_of_acyclic_edges hdeclared
    exact hschedule.acyclic fun e he => hperm.mem_iff.mpr (htargets e he)
  · rintro ⟨hnodup, hdeclared, hacyclic⟩
    refine ⟨hdeclared, ?_⟩
    rw [length_sorted hsources (acyclic_edges hacyclic), Finset.union_eq_left.mpr,
      List.toFinset_card_of_nodup hnodup]
    intro id hid
    rw [List.mem_toFinset, List.mem_map] at hid
    obtain ⟨e, he, rfl⟩ := hid
    exact List.mem_toFinset.mpr (htargets e he)

end Sorting

section Verdicts

variable {builtins : BuiltinBlueprint → RawBlueprint} {order : HashOrder} {doc : YamlDocument}

theorem dependents_congr {preconditions preconditions' : OrderedMap String (List String)}
    (h : Requires preconditions = Requires preconditions') :
    dependents preconditions = dependents preconditions' := by
  ext id
  rw [mem_dependents_iff, mem_dependents_iff, h]

variable (order) in
theorem isOk_validateParsed_iff
    (hbuiltins : ∀ b, AcyclicPreconditions (ownPreconditions (builtins b))) :
    (validateParsed builtins order doc).isOk = true ↔
      WellReferenced doc.blueprint ∧ CountsAlike (doc.blueprint.procedures.map (·.id))
        (ownPreconditions (builtins (builtinOf doc.framework doc.name))) := by
  have hrequires := requires_extract (builtins (builtinOf doc.framework doc.name)) doc.blueprint
  rw [validateParsed, validate_blueprint, isOk_sort_and_report_iff, isOk_reportViolations_iff,
    isOk_topological_sort_procedures_iff, and_comm, wellReferenced_iff, CountsAlike, CountsAlike,
    Declared, Declared, hrequires, dependents_congr hrequires]
  · rfl
  · rw [AcyclicPreconditions, hrequires]
    exact hbuiltins _

variable (order) in
theorem isOk_validateLoaded_iff :
    (validateLoaded order doc).isOk = true ↔
      WellReferenced doc.blueprint ∧
        WellOrdered (doc.blueprint.procedures.map (·.id)) (ownPreconditions doc.content) := by
  have hrequires := requires_extract doc.content doc.blueprint
  have hload : load_from_file doc.content =
      ⟨doc.blueprint, extract_preconditions_from_yaml doc.content doc.blueprint⟩ := rfl
  rw [validateLoaded, hload, BlueprintWithPreconditions.validate,
    validate_blueprint_with_preconditions, isOk_sort_and_report_iff, isOk_reportViolations_iff,
    isOk_topological_sort_with_preconditions_iff, collect_structural_violations,
    Option.toList_some, List.flatMap_singleton, List.append_assoc, List.append_assoc,
    List.append_assoc, List.append_eq_nil_iff, missingPreconditions_eq_nil_iff, wellReferenced_iff,
    List.append_assoc, List.append_assoc, WellOrdered, WellOrdered, AcyclicPreconditions,
    AcyclicPreconditions, Declared, Declared, hrequires]
  tauto

/-- Both validations agree on a document exactly when its references are broken, or its own
preconditions are well ordered just in case the built-in ones fit its procedures. -/
theorem validated_alike_iff (doc : YamlDocument)
    (hbuiltins : ∀ b, AcyclicPreconditions (ownPreconditions (builtins b))) :
    SameVerdict builtins doc ↔
      ¬ WellReferenced doc.blueprint ∨
        (WellOrdered (doc.blueprint.procedures.map (·.id)) (ownPreconditions doc.content) ↔
          CountsAlike (doc.blueprint.procedures.map (·.id))
            (ownPreconditions (builtins (builtinOf doc.framework doc.name)))) := by
  have hverdicts : SameVerdict builtins doc ↔
      ((WellReferenced doc.blueprint ∧ CountsAlike (doc.blueprint.procedures.map (·.id))
          (ownPreconditions (builtins (builtinOf doc.framework doc.name)))) ↔
        (WellReferenced doc.blueprint ∧
          WellOrdered (doc.blueprint.procedures.map (·.id)) (ownPreconditions doc.content))) := by
    constructor
    · intro h
      rw [← isOk_validateParsed_iff .insertion hbuiltins,
        ← isOk_validateLoaded_iff .insertion, h .insertion .insertion]
    · intro h order order'
      rw [Bool.eq_iff_iff, isOk_validateParsed_iff order hbuiltins, isOk_validateLoaded_iff]
      exact h
  rw [hverdicts]
  tauto

end Verdicts

theorem wellOrdered_genericFsa :
    WellOrdered ((convert_raw_to_blueprint genericFsa).procedures.map (·.id))
      (ownPreconditions genericFsa) :=
  (isOk_topological_sort_with_preconditions_iff .insertion _).mp (by decide)

theorem acyclic_genericFsa : AcyclicPreconditions (ownPreconditions genericFsa) :=
  wellOrdered_genericFsa.2.2

theorem generic_blueprint_is_validated_alike :
    SameVerdict (fun _ => genericFsa) ⟨"ISA", "Generic FSA", genericFsa⟩ := by
  rw [validated_alike_iff _ fun _ => acyclic_genericFsa]
  right
  apply iff_of_true
  · exact wellOrdered_genericFsa
  · exact (isOk_topological_sort_procedures_iff .insertion acyclic_genericFsa).mp
      (by decide)

/-- The built-in blueprint with two procedures that wait for each other. -/
def circularFsa : RawBlueprint :=
  { genericFsa with
    procedures := genericFsa.procedures ++
      [⟨"quality_review", "completion", "Quality review", none, some (machineTo "completed"), [],
          ["archive_file"]⟩,
        ⟨"archive_file", "completion", "Archiving", none, some (machineTo "completed"), [],
          ["quality_review"]⟩] }

theorem circular_blueprint_is_validated_differently :
    validateParsed (fun _ => genericFsa) .insertion ⟨"ISA", "Custom FSA", circularFsa⟩ = .ok () ∧
      validateLoaded .insertion ⟨"ISA", "Custom FSA", circularFsa⟩ =
        .error (.dagCycle ["quality_review", "archive_file"]) ∧
      ¬ SameVerdict (fun _ => genericFsa) ⟨"ISA", "Custom FSA", circularFsa⟩ := by
  have hparsed : validateParsed (fun _ => genericFsa) .insertion
      ⟨"ISA", "Custom FSA", circularFsa⟩ = .ok () := by decide
  have hloaded : validateLoaded .insertion ⟨"ISA", "Custom FSA", circularFsa⟩ =
      .error (.dagCycle ["quality_review", "archive_file"]) := by decide
  refine ⟨hparsed, hloaded, ?_⟩
  intro h
  have hsame := h .insertion .insertion
  rw [hparsed, hloaded] at hsame
  cases hsame

end Datasynth.Audit.BuiltinPreconditions
