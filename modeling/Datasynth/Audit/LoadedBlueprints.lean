import Datasynth.Audit.EngineRuns

/-!
When a YAML document loses nothing on being loaded: its procedures are those of the
loaded blueprint, and no engagement leaves the states that they declare.
-/

namespace Datasynth.Audit.LoadedBlueprints

open Datasynth.Audit.Engine
open Datasynth.Audit.EngineRuns
open Datasynth.Audit.Loader
open Datasynth.Audit.Schema
open Datasynth.Lib.EventTraces
open Datasynth.Lib.HashIteration
open Datasynth.Lib.SortedEntries

theorem find?_groupByPhase (procedures : List RawProcedure) (k : String) :
    ((groupByPhase procedures).find? k).getD [] = procedures.filter fun proc => proc.phase = k := by
  have hfold : ∀ groups : OrderedMap String (List RawProcedure),
      ((procedures.foldl (fun groups proc =>
        groups.upsert proc.phase fun group => group.getD [] ++ [proc]) groups).find? k).getD [] =
        (groups.find? k).getD [] ++ procedures.filter fun proc => proc.phase = k := by
    induction procedures with
    | nil => simp
    | cons proc procedures ih =>
        intro groups
        rw [List.foldl_cons, ih, OrderedMap.find?_upsert, List.filter_cons]
        by_cases hk : k = proc.phase
        · rw [if_pos hk, if_pos (decide_eq_true hk.symm), hk, Option.getD_some, List.append_assoc,
            List.singleton_append]
        · rw [if_neg hk, if_neg (by simpa using Ne.symm hk)]
  exact hfold .empty

def placedProcedures (phases : List BlueprintPhase) : List (String × BlueprintProcedure) :=
  phases.flatMap fun phase => phase.procedures.map fun proc => (phase.id, proc)

def placedAs (proc : RawProcedure) : String × BlueprintProcedure :=
  (proc.phase, convert_raw_procedure proc)

section Groups

variable {groups : OrderedMap String (List RawProcedure)} {procedures : List RawProcedure}

theorem placed_convertPhase (p : RawPhase)
    (h : (groups.find? p.id).getD [] = procedures.filter fun proc => proc.phase = p.id) :
    (convertPhase p ((groups.find? p.id).getD [])).procedures.map (fun proc => (p.id, proc)) =
      (procedures.filter fun proc => proc.phase = p.id).map placedAs := by
  rw [convertPhase, h, List.map_map]
  apply List.map_congr_left
  intro proc hproc
  rw [Function.comp_apply, placedAs, of_decide_eq_true (List.mem_filter.mp hproc).2]

/-- With the group of a phase its procedures are gone. -/
theorem getD_find?_erase (phase : String)
    (h : ∀ k, (groups.find? k).getD [] = procedures.filter fun proc => proc.phase = k)
    (k : String) : ((groups.erase phase).find? k).getD [] =
      (procedures.filter fun proc => proc.phase ≠ phase).filter fun proc => proc.phase = k := by
  rw [OrderedMap.find?_erase, List.filter_filter]
  rcases eq_or_ne k phase with rfl | hk
  · rw [if_pos rfl, Option.getD_none, eq_comm, List.filter_eq_nil_iff]
    simp
  · rw [if_neg hk, h k]
    apply List.filter_congr
    intro proc _
    by_cases hproc : proc.phase = k
    · simp [hproc, hk]
    · simp [hproc]

theorem filter_phases_cons_perm (procedures : List RawProcedure) (phase : String)
    (phases : List String) :
    ((procedures.filter fun proc => proc.phase = phase) ++
      (procedures.filter fun proc => proc.phase ≠ phase).filter fun proc => proc.phase ∈ phases).Perm
      (procedures.filter fun proc => proc.phase ∈ phase :: phases) := by
  have hperm := List.filter_append_perm (fun proc : RawProcedure => proc.phase = phase)
    (procedures.filter fun proc => proc.phase ∈ phase :: phases)
  rw [List.filter_filter, List.filter_filter] at hperm
  rw [List.filter_filter]
  convert hperm using 2
  · apply List.filter_congr
    intro proc _
    by_cases hproc : proc.phase = phase <;> simp [hproc]
  · apply List.filter_congr
    intro proc _
    by_cases hproc : proc.phase = phase <;> simp [hproc]

end Groups

/-- Conversion keeps exactly the procedures of declared phases, each once. -/
theorem placedProcedures_convertPhases {groups : OrderedMap String (List RawProcedure)}
    {procedures : List RawProcedure} (phases : List RawPhase)
    (h : ∀ k, (groups.find? k).getD [] = procedures.filter fun proc => proc.phase = k) :
    (placedProcedures (convertPhases groups phases)).Perm
      ((procedures.filter fun proc => proc.phase ∈ phases.map (·.id)).map placedAs) := by
  induction phases generalizing groups procedures with
  | nil => simp [convertPhases, placedProcedures]
  | cons p phases ih =>
      have hrest := (ih (getD_find?_erase p.id h)).append_left
        ((procedures.filter fun proc => proc.phase = p.id).map placedAs)
      rw [← List.map_append] at hrest
      have hsplit := filter_phases_cons_perm procedures p.id (phases.map (·.id))
      rw [convertPhases, placedProcedures, List.flatMap_cons]
      refine List.Perm.trans ?_ (hrest.trans (hsplit.map placedAs))
      rw [← placed_convertPhase p (h p.id)]
      exact List.Perm.refl _

/-- The initial state and both ends of all transitions are declared; a procedure
without a state machine has nothing to declare. -/
def StatesDeclared (agg : ProcedureAggregate) : Prop :=
  agg = default ∨ agg.initial_state ∈ agg.states ∧
    ∀ t ∈ agg.transitions, t.from_state ∈ agg.states ∧ t.to_state ∈ agg.states

instance (agg : ProcedureAggregate) : Decidable (StatesDeclared agg) := by
  unfold StatesDeclared
  infer_instance

theorem mem_states_of_path {agg : ProcedureAggregate} (h : StatesDeclared agg)
    (hmachine : agg ≠ default) {events : List AuditEvent} {s : String}
    (hpath : Path (Moves agg) agg.initial_state events s) : s ∈ agg.states := by
  rcases h with hdefault | ⟨hinitial, htransitions⟩
  · exact absurd hdefault hmachine
  · have hstep : ∀ s e s', s ∈ agg.states → Moves agg s e s' → s' ∈ agg.states := by
      rintro _ e _ _ ⟨t, ht, -, rfl, -, -, -⟩
      exact (htransitions t ht).2
    exact hpath.invariant hstep hinitial

/-- No run of an engine over the blueprint reports a procedure in an undeclared state. -/
def ReportsDeclared (bwp : BlueprintWithPreconditions) : Prop :=
  ∀ {σ δ A : Type} (services : Services σ δ A) (order : HashOrder)
    (engine engine' : AuditFsmEngine σ δ) (context : EngagementContext)
    (result : EngagementResult A), engine.bwp = bwp →
    run_engagement services order engine context = .ok (result, engine') →
      ∀ proc ∈ bwp.blueprint.procedures, ∀ s,
        result.procedure_states.find? proc.id = some s → s ∈ proc.aggregate.states

theorem reportsDeclared_of_statesDeclared {bwp : BlueprintWithPreconditions}
    (h : ∀ proc ∈ bwp.blueprint.procedures, StatesDeclared proc.aggregate) :
    ReportsDeclared bwp := by
  rintro σ δ A services order engine engine' context result rfl hrun proc hproc s hs
  have htraced := traced_of_run_engagement hrun
  have hincluded := (htraced.covered proc hproc).mp ⟨s, hs⟩
  refine mem_states_of_path (h proc hproc) ?_ (htraced.path proc hproc s hs)
  intro hdefault
  rw [isExcluded, hdefault] at hincluded
  simp [default] at hincluded

/-- What the loaded blueprint of a YAML document has to be. -/
structure LoadedWhole (raw : RawBlueprint) : Prop where
  declared : ∀ proc ∈ raw.procedures,
    ∃ phase ∈ (load_from_file raw).blueprint.phases, phase.id = proc.phase
  kept : (placedProcedures (load_from_file raw).blueprint.phases).Perm
    (raw.procedures.map placedAs)
  states : ∀ proc ∈ (load_from_file raw).blueprint.procedures, StatesDeclared proc.aggregate
  reported : ReportsDeclared (load_from_file raw)

theorem map_id_convertPhases (groups : OrderedMap String (List RawProcedure))
    (phases : List RawPhase) :
    (convertPhases groups phases).map (·.id) = phases.map (·.id) := by
  induction phases generalizing groups with
  | nil => rfl
  | cons p phases ih =>
      rw [convertPhases, List.map_cons, List.map_cons, ih]
      rfl

theorem map_snd_placedProcedures (phases : List BlueprintPhase) :
    (placedProcedures phases).map Prod.snd = phases.flatMap (·.procedures) := by
  rw [placedProcedures, List.map_flatMap]
  refine List.flatMap_congr fun phase _ => ?_
  rw [List.map_map]
  exact List.map_id _

theorem placedProcedures_load (raw : RawBlueprint) :
    (placedProcedures (load_from_file raw).blueprint.phases).Perm
      ((raw.procedures.filter fun proc => proc.phase ∈ raw.phases.map (·.id)).map placedAs) :=
  placedProcedures_convertPhases raw.phases (find?_groupByPhase raw.procedures)

/-- A document is loaded whole exactly when every procedure names a declared phase and
every state machine declares its states. -/
theorem loadedWhole_iff (raw : RawBlueprint) :
    LoadedWhole raw ↔
      (∀ proc ∈ raw.procedures, proc.phase ∈ raw.phases.map (·.id)) ∧
        ∀ proc ∈ raw.procedures, StatesDeclared (convert_raw_procedure proc).aggregate := by
  have hphases : (load_from_file raw).blueprint.phases.map (·.id) = raw.phases.map (·.id) :=
    map_id_convertPhases _ _
  constructor
  · intro h
    have hdeclared : ∀ proc ∈ raw.procedures, proc.phase ∈ raw.phases.map (·.id) := by
      intro proc hproc
      obtain ⟨phase, hphase, hid⟩ := h.declared proc hproc
      rw [← hphases, ← hid]
      exact List.mem_map.mpr ⟨phase, hphase, rfl⟩
    refine ⟨hdeclared, fun proc hproc => ?_⟩
    refine h.states (convert_raw_procedure proc) ?_
    have hplaced := h.kept.mem_iff.mpr (List.mem_map.mpr ⟨proc, hproc, rfl⟩)
    rw [AuditBlueprint.procedures, ← map_snd_placedProcedures]
    exact List.mem_map.mpr ⟨placedAs proc, hplaced, rfl⟩
  · rintro ⟨hdeclared, hstates⟩
    have hkept : (placedProcedures (load_from_file raw).blueprint.phases).Perm
        (raw.procedures.map placedAs) := by
      have hload := placedProcedures_load raw
      rwa [List.filter_eq_self.mpr fun proc hproc => decide_eq_true (hdeclared proc hproc)]
        at hload
    have hloaded : ∀ proc ∈ (load_from_file raw).blueprint.procedures,
        StatesDeclared proc.aggregate := by
      intro proc hproc
      rw [AuditBlueprint.procedures, ← map_snd_placedProcedures,
        (hkept.map Prod.snd).mem_iff, List.map_map] at hproc
      obtain ⟨rawProc, hraw, rfl⟩ := List.mem_map.mp hproc
      exact hstates rawProc hraw
    refine ⟨fun proc hproc => ?_, hkept, hloaded, reportsDeclared_of_statesDeclared hloaded⟩
    have hmem := hdeclared proc hproc
    rw [← hphases, List.mem_map] at hmem
    exact hmem

/-- The procedures of the built-in blueprint of a financial statement audit, with their
phases and preconditions. -/
def fsaProcedures : List (String × String × List String) :=
  [("accept_engagement", "planning", []),
    ("planning_materiality", "planning", ["accept_engagement"]),
    ("risk_identification", "planning", ["accept_engagement", "planning_materiality"]),
    ("test_of_controls", "execution", ["risk_identification"]),
    ("substantive_testing", "execution", ["risk_identification", "test_of_controls"]),
    ("analytical_procedures", "execution", ["planning_materiality"]),
    ("going_concern", "completion", ["substantive_testing"]),
    ("subsequent_events", "completion", ["substantive_testing"]),
    ("form_opinion", "completion",
      ["going_concern", "subsequent_events", "analytical_procedures"])]

def machineTo (final : String) : RawAggregate :=
  ⟨"not_started", ["not_started", "in_progress", "under_review", "completed"],
    [⟨"not_started", "in_progress", some "start", none, []⟩,
      ⟨"in_progress", "under_review", some "submit", none, []⟩,
      ⟨"under_review", final, some "approve", none, []⟩]⟩

def fsaProcedure (row : String × String × List String) : RawProcedure :=
  ⟨row.1, row.2.1, row.1, none, some (machineTo "completed"), [], row.2.2⟩

def genericFsa : RawBlueprint :=
  ⟨[], [], [],
    [⟨"planning", "Planning", some 1, none, none⟩,
      ⟨"execution", "Execution", some 2, none, none⟩,
      ⟨"completion", "Completion", some 3, none, none⟩],
    fsaProcedures.map fsaProcedure⟩

/-- One more procedure under an undeclared phase, and one that ends in an undeclared state. -/
def misfiledFsa : RawBlueprint :=
  { genericFsa with
    procedures := genericFsa.procedures ++
      [⟨"quality_review", "quality", "Quality review", none, some (machineTo "completed"), [], []⟩,
        ⟨"archive_file", "completion", "Archiving", none, some (machineTo "archived"), [],
          ["form_opinion"]⟩] }

def misfiledEngine : AuditFsmEngine ℕ Unit where
  blueprint := (load_from_file misfiledFsa).blueprint
  overlay := default
  rng := 0
  preconditions := (load_from_file misfiledFsa).preconditions
  dispatcher := ()

/-- Both validations accept the document; one procedure is gone, another one is
reported in an undeclared state. -/
theorem misfiled_blueprint_is_accepted :
    (load_from_file misfiledFsa).validate .insertion = .ok () ∧
      validate_blueprint .insertion genericFsa (load_from_file misfiledFsa).blueprint = .ok () ∧
      "quality_review" ∉ (load_from_file misfiledFsa).blueprint.procedures.map (·.id) ∧
      (run_engagement countingServices .insertion misfiledEngine ⟨⟨20103⟩⟩).map
          (fun run => run.1.procedure_states.find? "archive_file") = .ok (some "archived") ∧
      ¬ LoadedWhole misfiledFsa := by
  refine ⟨by decide, by decide, by decide, by decide, ?_⟩
  intro h
  obtain ⟨phase, hphase, hid⟩ := h.declared
    ⟨"quality_review", "quality", "Quality review", none, some (machineTo "completed"), [], []⟩
    (List.mem_append_right _ List.mem_cons_self)
  have hquality : "quality" ∈ misfiledFsa.phases.map (·.id) := by
    rw [← map_id_convertPhases (groupByPhase misfiledFsa.procedures)]
    exact List.mem_map.mpr ⟨phase, hphase, hid⟩
  revert hquality
  decide

end Datasynth.Audit.LoadedBlueprints
