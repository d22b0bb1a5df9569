import Mathlib.Tactic.NormNum
import Datasynth.Audit.Engine
import Datasynth.Audit.ProcedureOrder
import Datasynth.Lib.EventTraces

/-!
What a run of the engine leaves behind: a log in which the events of each procedure are
a path through its state machine.
-/

namespace Datasynth.Audit.EngineRuns

open Datasynth.Audit.Engine
open Datasynth.Audit.Loader
open Datasynth.Audit.ProcedureOrder
open Datasynth.Audit.Schema
open Datasynth.Lib.DoubleValues
open Datasynth.Lib.EventTraces
open Datasynth.Lib.HashIteration
open Datasynth.Lib.SortedEntries

/-- One declared transition, as its event shows it. -/
def Moves (agg : ProcedureAggregate) (s : String) (e : AuditEvent) (s' : String) : Prop :=
  ∃ t ∈ agg.transitions, t.from_state = s ∧ t.to_state = s' ∧ e.from_state = some s ∧
    e.to_state = some s' ∧ e.command = t.command.getD "transition"

def transitionEvents (id : String) (log : List AuditEvent) : List AuditEvent :=
  log.filter fun e => e.procedure_id = id ∧ e.event_type = "state_transition"

abbrev SelfLoop (e : AuditEvent) : Prop := e.from_state = e.to_state

theorem transitionEvents_append (id : String) (log added : List AuditEvent) :
    transitionEvents id (log ++ added) = transitionEvents id log ++ transitionEvents id added :=
  List.filter_append _ _

theorem transitionEvents_eq_nil {id : String} {log : List AuditEvent}
    (h : ∀ e ∈ log, ¬ (e.procedure_id = id ∧ e.event_type = "state_transition")) :
    transitionEvents id log = [] := by
  rw [transitionEvents, List.filter_eq_nil_iff]
  intro e he hmatch
  exact h e he (of_decide_eq_true hmatch)

section Steps

variable {σ δ A : Type} (services : Services σ δ A)

/-- Events of one procedure are appended; the states of the others stay. -/
structure Extends (id : String) (added : List AuditEvent) (acc acc' : RunAccum σ δ A) : Prop where
  log : acc'.event_log = acc.event_log ++ added
  owner : ∀ e ∈ added, e.procedure_id = id
  timed : Timed AuditEvent.timestamp acc.current_ts added acc'.current_ts
  others : ∀ k, k ≠ id → acc'.procedure_states.find? k = acc.procedure_states.find? k

theorem Extends.trans {id : String} {added added' : List AuditEvent}
    {acc acc' acc'' : RunAccum σ δ A} (h : Extends id added acc acc')
    (h' : Extends id added' acc' acc'') : Extends id (added ++ added') acc acc'' := by
  refine ⟨?_, ?_, h.timed.append h'.timed, ?_⟩
  · rw [h'.log, h.log, List.append_assoc]
  · intro e he
    rcases List.mem_append.mp he with he | he
    · exact h.owner e he
    · exact h'.owner e he
  · intro k hk
    rw [h'.others k hk, h.others k hk]

theorem Extends.of_eq {id : String} {acc acc' : RunAccum σ δ A}
    (hlog : acc'.event_log = acc.event_log) (htime : acc.current_ts ≤ acc'.current_ts)
    (hothers : ∀ k, k ≠ id → acc'.procedure_states.find? k = acc.procedure_states.find? k) :
    Extends id [] acc acc' := by
  refine ⟨?_, ?_, htime, hothers⟩
  · rw [hlog, List.append_nil]
  · intro e he
    cases he

theorem sample_lognormal_hours_notNegative (mu sigma : F64) (rng : σ) :
    (sample_lognormal_hours services mu sigma rng).1.NotNegative := by
  rw [sample_lognormal_hours]
  split
  · exact F64.notNegative_clamp _ (by norm_num) (by norm_num)
  · exact F64.notNegative_max _ (by norm_num)

theorem le_delay (acc : RunAccum σ δ A) (mu sigma : F64) :
    acc.current_ts ≤ (acc.delay services mu sigma).current_ts := by
  have hdelay := ((sample_lognormal_hours_notNegative services mu sigma
    acc.rng).scale (show (0 : ℚ) ≤ 60 by norm_num)).toI64_nonneg
  exact le_add_of_nonneg_right hdelay

theorem delay_extends (id : String) (acc : RunAccum σ δ A) (mu sigma : F64) :
    Extends id [] acc (acc.delay services mu sigma) :=
  .of_eq rfl (le_delay services acc mu sigma) fun _ _ => rfl

/-- The injection of an anomaly leaves the log, the states and the time alone. -/
theorem injectAnomaly_frame (procedure_id step_id : String) (acc : RunAccum σ δ A)
    (checks : List (F64 × AuditAnomalyType × AnomalySeverity × String)) :
    let injected := (injectAnomaly services procedure_id step_id acc checks).2
    injected.event_log = acc.event_log ∧ injected.procedure_states = acc.procedure_states ∧
      injected.current_ts = acc.current_ts := by
  induction checks generalizing acc with
  | nil => exact ⟨rfl, rfl, rfl⟩
  | cons check checks ih =>
      obtain ⟨prob, anomaly_type, severity, desc⟩ := check
      simp only [injectAnomaly]
      split
      · exact ⟨rfl, rfl, rfl⟩
      · exact ih _

theorem execute_step_extends (overlay : GenerationOverlay) (context : EngagementContext)
    (proc : BlueprintProcedure) (phase_id : String) (acc : RunAccum σ δ A) (step : BlueprintStep) :
    ∃ event, event.event_type = "procedure_step" ∧
      Extends proc.id [event] acc
        (execute_step services overlay context proc phase_id acc step) ∧
      (execute_step services overlay context proc phase_id acc step).procedure_states =
        acc.procedure_states := by
  obtain ⟨hlog, hstates, htime⟩ := injectAnomaly_frame services proc.id step.id
    (advance_step_time services acc) (anomalyChecks overlay.anomalies)
  have hdelay := delay_extends services proc.id acc (.finite 1) (.finite (1 / 2))
  have hinjected : Extends proc.id [] (advance_step_time services acc)
      (check_anomaly_injection services overlay proc.id step.id
        (advance_step_time services acc)).2 := by
    refine .of_eq hlog htime.ge fun k _ => ?_
    rw [check_anomaly_injection, hstates]
  set injected := check_anomaly_injection services overlay proc.id step.id
    (advance_step_time services acc)
  refine ⟨stepEvent proc phase_id step injected.1 injected.2.current_ts
    (services.random_bytes injected.2.rng).1, rfl, ?_, hstates⟩
  have hbefore := hdelay.trans hinjected
  rw [List.append_nil] at hbefore
  refine hbefore.trans ⟨rfl, ?_, ?_, fun _ _ => rfl⟩
  · intro e he
    rw [List.mem_singleton.mp he]
    rfl
  · exact ⟨le_refl _, le_refl _⟩

theorem execute_steps_extends (overlay : GenerationOverlay) (context : EngagementContext)
    (proc : BlueprintProcedure) (phase_id : String) (acc : RunAccum σ δ A) :
    ∃ added, (∀ e ∈ added, e.event_type = "procedure_step") ∧
      Extends proc.id added acc (execute_steps services overlay context proc phase_id acc) ∧
      (execute_steps services overlay context proc phase_id acc).procedure_states =
        acc.procedure_states := by
  have hfold : ∀ (steps : List BlueprintStep) (acc : RunAccum σ δ A),
      ∃ added, (∀ e ∈ added, e.event_type = "procedure_step") ∧
        Extends proc.id added acc
          (steps.foldl (execute_step services overlay context proc phase_id) acc) ∧
        (steps.foldl (execute_step services overlay context proc phase_id) acc).procedure_states =
          acc.procedure_states := by
    intro steps
    induction steps with
    | nil =>
        intro acc
        exact ⟨[], by simp, .of_eq rfl le_rfl fun _ _ => rfl, rfl⟩
    | cons step steps ih =>
        intro acc
        obtain ⟨event, htype, hextends, hstates⟩ := execute_step_extends services
          overlay context proc phase_id acc step
        obtain ⟨added, htypes, hrest, hstates'⟩ :=
          ih (execute_step services overlay context proc phase_id acc step)
        refine ⟨[event] ++ added, ?_, hextends.trans hrest, ?_⟩
        · intro e he
          rcases List.mem_cons.mp he with rfl | he
          · exact htype
          · exact htypes e he
        · rw [List.foldl_cons, hstates', hstates]
  exact hfold proc.steps acc

theorem emitTransition_extends (engine : AuditFsmEngine σ δ) (phase_id : String)
    (proc : BlueprintProcedure) (current_state : String) (transition : ProcedureTransition)
    (acc : RunAccum σ δ A) :
    Extends proc.id
        [transitionEvent engine.blueprint proc phase_id current_state transition acc.current_ts
          (services.random_bytes acc.rng).1] acc
        (emitTransition services engine phase_id proc current_state transition acc) ∧
      (emitTransition services engine phase_id proc current_state transition
        acc).procedure_states.find? proc.id = some transition.to_state := by
  refine ⟨⟨rfl, ?_, ⟨le_refl _, le_refl _⟩, ?_⟩, ?_⟩
  · intro e he
    rw [List.mem_singleton.mp he]
    rfl
  · intro k hk
    exact (OrderedMap.find?_insert _ _ _ _).trans (if_neg hk)
  · exact (OrderedMap.find?_insert _ _ _ _).trans (if_pos rfl)

/-- A transition that is taken leaves its event, then only events of steps. -/
theorem takeTransition_extends (engine : AuditFsmEngine σ δ) (context : EngagementContext)
    (phase_id : String) (proc : BlueprintProcedure) (current_state : String)
    (transition : ProcedureTransition) (acc : RunAccum σ δ A) :
    ∃ added, (∀ e ∈ added, e.event_type = "procedure_step") ∧
      Extends proc.id
        (transitionEvent engine.blueprint proc phase_id current_state transition acc.current_ts
          (services.random_bytes acc.rng).1 :: added) acc
        (takeTransition services engine context phase_id proc current_state transition acc) ∧
      (takeTransition services engine context phase_id proc current_state transition
        acc).procedure_states.find? proc.id = some transition.to_state := by
  obtain ⟨hemit, hfind⟩ := emitTransition_extends services engine phase_id proc
    current_state transition acc
  rw [takeTransition]
  generalize emitTransition services engine phase_id proc current_state transition acc = emitted
    at hemit hfind
  have hwork : ∃ worked added, worked =
      (if executesSteps proc.aggregate current_state transition.to_state then
        execute_steps services engine.overlay context proc phase_id emitted else emitted) ∧
      (∀ e ∈ added, e.event_type = "procedure_step") ∧ Extends proc.id added emitted worked ∧
      worked.procedure_states = emitted.procedure_states := by
    split
    · obtain ⟨added, hadded⟩ := execute_steps_extends services engine.overlay
        context proc phase_id emitted
      exact ⟨_, added, rfl, hadded⟩
    · exact ⟨_, [], rfl, by simp, .of_eq rfl le_rfl fun _ _ => rfl, rfl⟩
  obtain ⟨worked, added, hworked, htypes, hsteps, hstates⟩ := hwork
  rw [← hworked]
  refine ⟨added, htypes, ?_, ?_⟩
  · have hall := (hemit.trans hsteps).trans (delay_extends services proc.id worked
      engine.overlay.transitions.defaults.timing.mu_hours
      engine.overlay.transitions.defaults.timing.sigma_hours)
    rw [List.append_nil] at hall
    exact hall
  · rw [← hfind, ← hstates]
    rfl

theorem select_transition_mem (revision_probability : F64) (states : List String)
    (first : ProcedureTransition) (rest : List ProcedureTransition) (rng : σ) :
    (select_transition services revision_probability states first rest rng).1 ∈ first :: rest := by
  rw [select_transition]
  split
  · exact List.mem_cons_self
  · simp only
    split
    · rename_i revision heq
      split at heq
      · exact List.mem_of_find?_eq_some heq
      · cases heq
    · cases hforward : (first :: rest).find? fun t =>
          position states t.to_state > position states first.from_state with
      | none => exact List.mem_cons_self
      | some forward => exact List.mem_of_find?_eq_some hforward

/-- A bounded transition is a self-loop within the bound, or none. -/
theorem boundSelfLoop_eq_some {bound count count' : ℕ} {outgoing : List ProcedureTransition}
    {t t' : ProcedureTransition} (ht : t ∈ outgoing)
    (h : boundSelfLoop bound outgoing t count = some (t', count')) :
    t' ∈ outgoing ∧ (t'.from_state = t'.to_state ∧ count' = count + 1 ∧ count + 1 < bound ∨
      t'.from_state ≠ t'.to_state ∧ count' = 0) := by
  rw [boundSelfLoop] at h
  split at h
  · rename_i hloop
    split at h
    · obtain ⟨forward, hforward, heq⟩ := Option.map_eq_some_iff.mp h
      cases heq
      refine ⟨List.mem_of_find?_eq_some hforward, .inr ⟨?_, rfl⟩⟩
      have hmove := List.find?_some hforward
      exact of_decide_eq_true hmove
    · rename_i hbelow
      cases h
      exact ⟨ht, .inl ⟨hloop, rfl, not_le.mp hbelow⟩⟩
  · rename_i hmove
    cases h
    exact ⟨ht, .inr ⟨hmove, rfl⟩⟩

structure Walked (agg : ProcedureAggregate) (limit bound count : ℕ) (initial final : String)
    (events : List AuditEvent) : Prop where
  path : Path (Moves agg) initial events final
  length_le : events.length ≤ limit
  runs : RunsBelow SelfLoop bound count events

theorem Walked.nil (agg : ProcedureAggregate) (limit bound count : ℕ) (s : String) :
    Walked agg limit bound count s s [] :=
  ⟨.nil s, Nat.zero_le _, trivial⟩

theorem transitionEvents_steps {id : String} {added : List AuditEvent}
    (h : ∀ e ∈ added, e.event_type = "procedure_step") : transitionEvents id added = [] := by
  refine transitionEvents_eq_nil fun e he hmatch => ?_
  rw [h e he] at hmatch
  exact absurd hmatch.2 (by decide)

theorem walkProcedure_extends (engine : AuditFsmEngine σ δ) (context : EngagementContext)
    (phase_id : String) (proc : BlueprintProcedure) (iterations : ℕ) {current_state : String}
    (self_loop_count : ℕ) {acc : RunAccum σ δ A}
    (hcurrent : acc.procedure_states.find? proc.id = some current_state) :
    ∃ added final,
      Extends proc.id added acc (walkProcedure services engine context phase_id proc iterations
        current_state self_loop_count acc) ∧
      (walkProcedure services engine context phase_id proc iterations current_state
        self_loop_count acc).procedure_states.find? proc.id = some final ∧
      Walked proc.aggregate iterations engine.overlay.max_self_loop_iterations self_loop_count
        current_state final (transitionEvents proc.id added) := by
  induction iterations generalizing current_state self_loop_count acc with
  | zero =>
      exact ⟨[], current_state, .of_eq rfl le_rfl fun _ _ => rfl, hcurrent, .nil _ _ _ _ _⟩
  | succ iterations ih =>
      rw [walkProcedure]
      split
      · exact ⟨[], current_state, .of_eq rfl le_rfl fun _ _ => rfl, hcurrent, .nil _ _ _ _ _⟩
      · rename_i first rest houtgoing
        simp only
        have hselected := select_transition_mem services
          engine.overlay.transitions.defaults.revision_probability proc.aggregate.states first
          rest acc.rng
        split
        · exact ⟨[], current_state, .of_eq rfl le_rfl fun _ _ => rfl, hcurrent, .nil _ _ _ _ _⟩
        · rename_i transition count' hbound
          obtain ⟨hmem, hloop⟩ := boundSelfLoop_eq_some hselected hbound
          rw [← houtgoing, List.mem_filter, decide_eq_true_eq] at hmem
          obtain ⟨hdeclared, hfrom⟩ := hmem
          obtain ⟨steps, htypes, htake, hfind⟩ := takeTransition_extends services
            engine context phase_id proc current_state transition
            { acc with
              rng := (select_transition services
                engine.overlay.transitions.defaults.revision_probability proc.aggregate.states
                first rest acc.rng).2 }
          obtain ⟨added, final, hrest, hfinal, hwalked⟩ := ih count' hfind
          refine ⟨_, final, .trans ⟨htake.log, htake.owner, htake.timed, htake.others⟩ hrest,
            hfinal, ?_⟩
          rw [transitionEvents_append, transitionEvents, List.filter_cons_of_pos (by
            simp [transitionEvent]), ← transitionEvents, transitionEvents_steps htypes,
            List.singleton_append]
          refine ⟨.cons ⟨transition, hdeclared, hfrom, rfl, rfl, rfl, rfl⟩ hwalked.path,
            Nat.succ_le_succ hwalked.length_le, ?_⟩
          rcases hloop with ⟨hself, rfl, hbelow⟩ | ⟨hmove, rfl⟩
          · exact .cons_of_pos (congrArg some (hfrom.symm.trans hself)) hbelow hwalked.runs
          · refine .cons_of_neg (fun hself => ?_) hwalked.runs
            exact hmove (hfrom.trans (Option.some.inj hself))

end Steps

theorem mem_procedures_of_procLookup {bp : AuditBlueprint} {id phase_id : String}
    {proc : BlueprintProcedure} (h : (procLookup bp).find? id = some (phase_id, proc)) :
    proc ∈ bp.procedures ∧ proc.id = id := by
  obtain ⟨phase, hphase, hmem⟩ := List.mem_flatMap.mp (OrderedMap.mem_of_find?_ofList h)
  obtain ⟨proc', hproc, heq⟩ := List.mem_map.mp hmem
  cases heq
  exact ⟨List.mem_flatMap.mpr ⟨phase, hphase, hproc⟩, rfl⟩

theorem exists_procLookup {bp : AuditBlueprint} (hnodup : (bp.procedures.map (·.id)).Nodup)
    {proc : BlueprintProcedure} (h : proc ∈ bp.procedures) :
    ∃ phase_id, (procLookup bp).find? proc.id = some (phase_id, proc) := by
  obtain ⟨phase, hphase, hproc⟩ := List.mem_flatMap.mp h
  refine ⟨phase.id, OrderedMap.find?_ofList_eq_some_of_nodup ?_ (List.mem_flatMap.mpr
    ⟨phase, hphase, List.mem_map.mpr ⟨proc, hproc, rfl⟩⟩)⟩
  simp only [AuditBlueprint.procedures, List.map_flatMap, List.map_map] at hnodup ⊢
  exact hnodup

section Run

variable {σ δ A : Type} (services : Services σ δ A)

/-- A procedure is passed over, or its state machine is walked from the initial state. -/
theorem runProcedure_cases (engine : AuditFsmEngine σ δ) (context : EngagementContext)
    (acc : RunAccum σ δ A) (id : String) :
    (runProcedure services engine context acc id = acc ∧
      ∀ phase_id proc, (procLookup engine.blueprint).find? id = some (phase_id, proc) →
        isExcluded engine.overlay proc = true) ∨
    ∃ phase_id proc added final,
      (procLookup engine.blueprint).find? id = some (phase_id, proc) ∧
      isExcluded engine.overlay proc = false ∧
      Extends id added acc (runProcedure services engine context acc id) ∧
      (runProcedure services engine context acc id).procedure_states.find? id = some final ∧
      Walked proc.aggregate (IterationLimits.limitOf engine.overlay.iteration_limits id)
        engine.overlay.max_self_loop_iterations 0 proc.aggregate.initial_state final
        (transitionEvents id added) := by
  rw [runProcedure]
  split
  · rename_i hnone
    refine .inl ⟨rfl, fun phase_id proc hfind => ?_⟩
    rw [hnone] at hfind
    cases hfind
  · rename_i phase_id proc hfind
    split
    · rename_i hexcluded
      refine .inl ⟨rfl, fun phase_id' proc' hfind' => ?_⟩
      rw [hfind] at hfind'
      cases hfind'
      exact hexcluded
    · rename_i hrun
      obtain ⟨-, rfl⟩ := mem_procedures_of_procLookup hfind
      set entered : RunAccum σ δ A :=
        { acc with
          procedure_states :=
            acc.procedure_states.insert proc.id proc.aggregate.initial_state }
        with hentered
      have henter : Extends proc.id [] acc entered := by
        refine .of_eq rfl le_rfl fun k hk => ?_
        rw [hentered, OrderedMap.find?_insert, if_neg hk]
      have hinitial : entered.procedure_states.find? proc.id =
          some proc.aggregate.initial_state := by
        rw [hentered, OrderedMap.find?_insert, if_pos rfl]
      obtain ⟨added, final, hextends, hfinal, hwalked⟩ := walkProcedure_extends
        services engine context phase_id proc
        (IterationLimits.limitOf engine.overlay.iteration_limits proc.id) 0 hinitial
      exact .inr ⟨phase_id, proc, added, final, hfind, Bool.eq_false_of_not_eq_true hrun,
        henter.trans hextends, hfinal, hwalked⟩

/-- The state of a run after the procedures `done`. -/
structure Reached (engine : AuditFsmEngine σ δ) (context : EngagementContext) (done : List String)
    (acc : RunAccum σ δ A) : Prop where
  owners : ∀ e ∈ acc.event_log, ∃ s, acc.procedure_states.find? e.procedure_id = some s
  visited : ∀ id s, acc.procedure_states.find? id = some s → id ∈ done
  walked : ∀ id s, acc.procedure_states.find? id = some s →
    ∃ phase_id proc, (procLookup engine.blueprint).find? id = some (phase_id, proc) ∧
      isExcluded engine.overlay proc = false ∧
      Walked proc.aggregate (IterationLimits.limitOf engine.overlay.iteration_limits id)
        engine.overlay.max_self_loop_iterations 0 proc.aggregate.initial_state s
        (transitionEvents id acc.event_log)
  covered : ∀ id ∈ done, ∀ phase_id proc,
    (procLookup engine.blueprint).find? id = some (phase_id, proc) →
      isExcluded engine.overlay proc = false → ∃ s, acc.procedure_states.find? id = some s
  ordered : ∀ id deps, engine.preconditions.find? id = some deps → ∀ dep ∈ deps,
    Before (fun e => e.procedure_id = dep) (fun e => e.procedure_id = id) acc.event_log
  timed : Timed AuditEvent.timestamp (startOf context) acc.event_log acc.current_ts

theorem reached_start (engine : AuditFsmEngine σ δ) (context : EngagementContext) :
    Reached engine context [] (startAccum services engine context) where
  owners := by
    intro e he
    cases he
  visited := by
    intro id s h
    cases h
  walked := by
    intro id s h
    cases h
  covered := by
    intro id hid
    cases hid
  ordered := by
    intro id deps _ dep _
    refine before_of_forall_not fun e he => ?_
    cases he
  timed := le_rfl

section Reach

variable {services} {engine : AuditFsmEngine σ δ} {context : EngagementContext}
  {sorted done rest : List String} {id : String} {acc acc' : RunAccum σ δ A}

theorem Reached.fresh (h : Reached engine context done acc) (hnew : id ∉ done) :
    ∀ e ∈ acc.event_log, e.procedure_id ≠ id := by
  rintro e he rfl
  obtain ⟨s, hs⟩ := h.owners e he
  exact hnew (h.visited _ s hs)

theorem Reached.passOver (h : Reached engine context done acc)
    (hexcluded : ∀ phase_id proc, (procLookup engine.blueprint).find? id = some (phase_id, proc) →
      isExcluded engine.overlay proc = true) :
    Reached engine context (done ++ [id]) acc := by
  refine { h with visited := ?_, covered := ?_ }
  · intro k s hk
    exact List.mem_append_left _ (h.visited k s hk)
  · intro k hk phase_id proc hlookup hrun
    rcases List.mem_append.mp hk with hk | hk
    · exact h.covered k hk phase_id proc hlookup hrun
    · rw [List.mem_singleton] at hk
      rw [hk] at hlookup
      rw [hexcluded phase_id proc hlookup] at hrun
      cases hrun

section Walk

variable {added : List AuditEvent} {final : String}

theorem Reached.owners_walk (h : Reached engine context done acc) (hnew : id ∉ done)
    (hextends : Extends id added acc acc')
    (hfinal : acc'.procedure_states.find? id = some final) :
    ∀ e ∈ acc'.event_log, ∃ s, acc'.procedure_states.find? e.procedure_id = some s := by
  intro e he
  rw [hextends.log, List.mem_append] at he
  rcases he with he | he
  · rw [hextends.others _ (h.fresh hnew e he)]
    exact h.owners e he
  · rw [hextends.owner e he]
    exact ⟨final, hfinal⟩

theorem Reached.visited_walk (h : Reached engine context done acc)
    (hextends : Extends id added acc acc') {k s : String}
    (hk : acc'.procedure_states.find? k = some s) : k ∈ done ++ [id] := by
  rcases eq_or_ne k id with rfl | hkid
  · exact List.mem_append_right _ (List.mem_singleton_self k)
  · rw [hextends.others k hkid] at hk
    exact List.mem_append_left _ (h.visited k s hk)

/-- A walk adds no transition event of another procedure. -/
theorem Extends.transitionEvents_of_ne (hextends : Extends id added acc acc') {k : String}
    (hkid : k ≠ id) : transitionEvents k acc'.event_log = transitionEvents k acc.event_log := by
  have hothers : transitionEvents k added = [] := by
    apply transitionEvents_eq_nil
    intro e he hmatch
    exact hkid (hmatch.1.symm.trans (hextends.owner e he))
  rw [hextends.log, transitionEvents_append, hothers, List.append_nil]

theorem Extends.transitionEvents_self (hextends : Extends id added acc acc')
    (hfresh : ∀ e ∈ acc.event_log, e.procedure_id ≠ id) :
    transitionEvents id acc'.event_log = transitionEvents id added := by
  have hnone : transitionEvents id acc.event_log = [] := by
    apply transitionEvents_eq_nil
    intro e he hmatch
    exact hfresh e he hmatch.1
  rw [hextends.log, transitionEvents_append, hnone, List.nil_append]

theorem Reached.ordered_walk (horder : ExecutionOrder engine.bwp sorted)
    (hsorted : sorted = done ++ id :: rest) (h : Reached engine context done acc)
    (hextends : Extends id added acc acc')
    (howners : ∀ e ∈ acc'.event_log,
      ∃ s, acc'.procedure_states.find? e.procedure_id = some s)
    {k : String} {deps : List String} (hdeps : engine.preconditions.find? k = some deps)
    {dep : String} (hdep : dep ∈ deps) :
    Before (fun e => e.procedure_id = dep) (fun e => e.procedure_id = k) acc'.event_log := by
  rcases eq_or_ne dep id with rfl | hdepid
  · -- What waits for the walked procedure has no event yet.
    have hlate := horder.notMem_of_waits hsorted hdeps hdep
    apply before_of_forall_not
    rintro e he rfl
    obtain ⟨s, hs⟩ := howners e he
    exact hlate (h.visited_walk hextends hs)
  · rw [hextends.log]
    apply (h.ordered k deps hdeps dep hdep).append
    intro e he heq
    exact hdepid (heq.symm.trans (hextends.owner e he))

end Walk

variable (services) in
theorem Reached.step (horder : ExecutionOrder engine.bwp sorted)
    (hsorted : sorted = done ++ id :: rest) (h : Reached engine context done acc) :
    Reached engine context (done ++ [id]) (runProcedure services engine context acc id) := by
  have hnew := horder.notMem_done hsorted
  rcases runProcedure_cases services engine context acc id with
    ⟨hsame, hexcluded⟩ | ⟨phase_id, proc, added, final, hfind, hincluded, hextends, hfinal, hwalked⟩
  · rw [hsame]
    exact h.passOver hexcluded
  · have howners := h.owners_walk hnew hextends hfinal
    refine ⟨howners, fun k s hk => h.visited_walk hextends hk, ?_, ?_, ?_, ?_⟩
    · intro k s hk
      rcases eq_or_ne k id with rfl | hkid
      · rw [hfinal] at hk
        cases hk
        rw [hextends.transitionEvents_self (h.fresh hnew)]
        exact ⟨phase_id, proc, hfind, hincluded, hwalked⟩
      · rw [hextends.transitionEvents_of_ne hkid]
        rw [hextends.others k hkid] at hk
        exact h.walked k s hk
    · intro k hk phase_id' proc' hlookup hrun
      rcases eq_or_ne k id with rfl | hkid
      · exact ⟨final, hfinal⟩
      · rw [hextends.others k hkid]
        rcases List.mem_append.mp hk with hk | hk
        · exact h.covered k hk phase_id' proc' hlookup hrun
        · exact absurd (List.mem_singleton.mp hk) hkid
    · intro k deps hdeps dep hdep
      exact h.ordered_walk horder hsorted hextends howners hdeps hdep
    · rw [hextends.log]
      exact h.timed.append hextends.timed

end Reach

/-- What an engagement's result says about the procedures of its blueprint. -/
structure Traced (engine : AuditFsmEngine σ δ) (result : EngagementResult A) : Prop where
  path : ∀ proc ∈ engine.blueprint.procedures, ∀ s,
    result.procedure_states.find? proc.id = some s →
      Path (Moves proc.aggregate) proc.aggregate.initial_state
        (transitionEvents proc.id result.event_log) s
  limit : ∀ id, (transitionEvents id result.event_log).length ≤
    IterationLimits.limitOf engine.overlay.iteration_limits id
  self_loops : ∀ id run, run <:+: transitionEvents id result.event_log → run ≠ [] →
    (∀ e ∈ run, SelfLoop e) → run.length < engine.overlay.max_self_loop_iterations
  preconditions : ∀ id deps, engine.preconditions.find? id = some deps → ∀ dep ∈ deps,
    Before (fun e => e.procedure_id = dep) (fun e => e.procedure_id = id) result.event_log
  timestamps : result.event_log.Pairwise fun e e' => e.timestamp ≤ e'.timestamp
  reported : ∀ e ∈ result.event_log, ∃ proc ∈ engine.blueprint.procedures,
    proc.id = e.procedure_id ∧ ∃ s, result.procedure_states.find? proc.id = some s
  covered : ∀ proc ∈ engine.blueprint.procedures,
    (∃ s, result.procedure_states.find? proc.id = some s) ↔
      isExcluded engine.overlay proc = false

theorem Reached.walked_or_nil {engine : AuditFsmEngine σ δ} {context : EngagementContext}
    {done : List String} {acc : RunAccum σ δ A} (h : Reached engine context done acc)
    (id : String) :
    transitionEvents id acc.event_log = [] ∨ ∃ phase_id proc s,
      (procLookup engine.blueprint).find? id = some (phase_id, proc) ∧
      Walked proc.aggregate (IterationLimits.limitOf engine.overlay.iteration_limits id)
        engine.overlay.max_self_loop_iterations 0 proc.aggregate.initial_state s
        (transitionEvents id acc.event_log) := by
  cases hstate : acc.procedure_states.find? id with
  | none =>
      refine .inl (transitionEvents_eq_nil fun e he hmatch => ?_)
      obtain ⟨s, hs⟩ := h.owners e he
      rw [hmatch.1, hstate] at hs
      cases hs
  | some s =>
      obtain ⟨phase_id, proc, hfind, -, hwalked⟩ := h.walked id s hstate
      exact .inr ⟨phase_id, proc, s, hfind, hwalked⟩

theorem Reached.traced {engine : AuditFsmEngine σ δ} {context : EngagementContext}
    {sorted : List String} {acc : RunAccum σ δ A} (horder : ExecutionOrder engine.bwp sorted)
    (h : Reached engine context sorted acc) :
    Traced engine (finishRun engine context acc).1 := by
  have hnodup : (engine.blueprint.procedures.map (·.id)).Nodup :=
    horder.perm.nodup_iff.mp horder.nodup
  constructor
  · intro proc hproc s hs
    obtain ⟨phase_id, proc', hfind, -, hwalked⟩ := h.walked proc.id s hs
    obtain ⟨phase_id', hfind'⟩ := exists_procLookup hnodup hproc
    rw [hfind'] at hfind
    cases hfind
    exact hwalked.path
  · intro id
    show (transitionEvents id acc.event_log).length ≤ _
    rcases h.walked_or_nil id with hnil | ⟨_, _, _, _, hwalked⟩
    · rw [hnil]
      exact Nat.zero_le _
    · exact hwalked.length_le
  · intro id run hpart hne hrun
    rcases h.walked_or_nil id with hnil | ⟨_, _, _, _, hwalked⟩
    · rw [show transitionEvents id (finishRun engine context acc).1.event_log = [] from hnil,
        List.infix_nil] at hpart
      exact absurd hpart hne
    · exact hwalked.runs.length_lt hpart hne hrun
  · exact h.ordered
  · exact h.timed.pairwise
  · intro e he
    obtain ⟨s, hs⟩ := h.owners e he
    obtain ⟨phase_id, proc, hfind, -⟩ := h.walked e.procedure_id s hs
    obtain ⟨hproc, hid⟩ := mem_procedures_of_procLookup hfind
    exact ⟨proc, hproc, hid, s, hid ▸ hs⟩
  · intro proc hproc
    obtain ⟨phase_id, hfind⟩ := exists_procLookup hnodup hproc
    constructor
    · rintro ⟨s, hs⟩
      obtain ⟨phase_id', proc', hfind', hincluded, -⟩ := h.walked proc.id s hs
      rw [hfind] at hfind'
      cases hfind'
      exact hincluded
    · intro hrun
      refine h.covered proc.id (horder.perm.mem_iff.mpr ?_) phase_id proc hfind hrun
      exact List.mem_map.mpr ⟨proc, hproc, rfl⟩

variable {services} in
/-- Every run that is not refused for its preconditions is traced. -/
theorem traced_of_run_engagement {order : HashOrder} {engine engine' : AuditFsmEngine σ δ}
    {context : EngagementContext} {result : EngagementResult A}
    (h : run_engagement services order engine context = .ok (result, engine')) :
    Traced engine result := by
  rw [run_engagement] at h
  cases hsort : engine.bwp.topological_sort order with
  | error e =>
      rw [hsort] at h
      cases h
  | ok sorted =>
      have horder := executionOrder_of_topological_sort hsort
      rw [hsort] at h
      have hresult : (finishRun engine context (sorted.foldl (runProcedure services engine context)
          (startAccum services engine context))).1 = result :=
        congrArg Prod.fst (Except.ok.inj h)
      rw [← hresult]
      refine Reached.traced horder (foldl_prefix_invariant sorted (Reached engine context) ?_
        (reached_start services engine context))
      intro done id rest acc hsorted hreached
      exact hreached.step services horder hsorted

/-- A validated blueprint is run to its end, and the run is traced. -/
theorem run_engagement_traced {order : HashOrder}
    {engine : AuditFsmEngine σ δ} (h : engine.bwp.validate order = .ok ())
    (context : EngagementContext) :
    ∃ result engine', run_engagement services order engine context = .ok (result, engine') ∧
      Traced engine result := by
  obtain ⟨sorted, hsorted⟩ := exists_topological_sort_of_validate h
  have hrun : run_engagement services order engine context =
      .ok (finishRun engine context (sorted.foldl (runProcedure services engine context)
        (startAccum services engine context))) := by
    rw [run_engagement, hsorted]
    rfl
  exact ⟨_, _, hrun, traced_of_run_engagement hrun⟩

end Run

def countingServices : Services ℕ Unit Unit where
  random_f64 n := (.finite (mkRat (Int.ofNat (n % 10)) 10), n + 1)
  random_bytes n := ([⟨n % 256, Nat.mod_lt n (Nat.zero_lt_succ 255)⟩], n + 1)
  log_normal _ _ n := some (.finite (mkRat (Int.ofNat (n % 5)) 1), n + 1)
  dispatch _ _ _ state := state
  no_artifacts := ()

def sampleStep (id : String) : BlueprintStep :=
  ⟨id, id, none, some "audit_staff", none, none, .requirement, [], [], [], none⟩

def sampleAggregate : ProcedureAggregate :=
  ⟨"not_started", ["not_started", "in_progress", "completed"],
    [⟨"not_started", "in_progress", some "begin", none, []⟩,
      ⟨"in_progress", "in_progress", some "revise", none, []⟩,
      ⟨"in_progress", "completed", some "approve", none, []⟩]⟩

def sampleProcedure (id : String) : BlueprintProcedure :=
  ⟨id, id, none, .empty, sampleAggregate, [sampleStep (id ++ "_step")]⟩

def sampleEngine : AuditFsmEngine ℕ Unit where
  blueprint :=
    ⟨[⟨"audit_staff", "Staff", none⟩], [], [],
      [⟨"planning", "Planning", some 1, none, none, none,
        [sampleProcedure "planning_materiality", sampleProcedure "accept_engagement"]⟩]⟩
  overlay := default
  rng := 0
  preconditions := .ofList [("planning_materiality", ["accept_engagement"])]
  dispatcher := ()

theorem sample_engagement_traced :
    ∃ result engine', run_engagement countingServices .insertion sampleEngine ⟨⟨20103⟩⟩ =
      .ok (result, engine') ∧ Traced sampleEngine result :=
  run_engagement_traced countingServices (by decide) ⟨⟨20103⟩⟩

example : (run_engagement countingServices .insertion sampleEngine ⟨⟨20103⟩⟩).map
      (fun run => run.1.event_log.map fun e => (e.procedure_id, e.to_state)) =
    .ok [("accept_engagement", some "in_progress"), ("accept_engagement", none),
      ("accept_engagement", some "completed"), ("planning_materiality", some "in_progress"),
      ("planning_materiality", none), ("planning_materiality", some "completed")] := by
  decide +kernel

end Datasynth.Audit.EngineRuns
