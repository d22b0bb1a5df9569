import Mathlib.Algebra.BigOperators.Field
import Mathlib.Algebra.Field.Rat
import Datasynth.Audit.EngineRuns
import Datasynth.Lib.ExceptRuns
import Datasynth.Lib.Grouping

/-!
How far the events of an engagement conform to a blueprint, and the state machines that can be
read off them; of the events that a run of the engine logs, all conform to its own blueprint.
-/

namespace Datasynth.Audit.Conformance

open Datasynth.Audit.Engine
open Datasynth.Audit.EngineRuns
open Datasynth.Audit.ProcedureOrder
open Datasynth.Audit.Schema
open Datasynth.Lib.CountedValues
open Datasynth.Lib.EventTraces
open Datasynth.Lib.ExceptRuns
open Datasynth.Lib.Grouping
open Datasynth.Lib.HashIteration
open Datasynth.Lib.SortedEntries

def AuditAnomalyType.text : AuditAnomalyType → String
  | .skippedApproval => "skipped_approval"
  | .latePosting => "late_posting"
  | .missingEvidence => "missing_evidence"
  | .outOfSequence => "out_of_sequence"
  | .insufficientDocumentation => "insufficient_documentation"

structure AnomalyStats where
  total_events : ℕ
  anomaly_events : ℕ
  anomaly_rate : ℚ
  by_type : OrderedMap String ℕ

/-- Conformance metrics for a single procedure. -/
structure ProcedureConformance where
  procedure_id : String
  fitness : ℚ
  transitions_observed : ℕ
  transitions_defined : ℕ
deriving DecidableEq, Repr

structure ConformanceReport where
  fitness : ℚ
  precision : ℚ
  generalization : Option ℚ
  anomaly_stats : AnomalyStats
  per_procedure : List ProcedureConformance

def ratio (part whole : ℕ) (default : ℚ) : ℚ := if 0 < whole then part / whole else default

/-- The pairs of states between which a transition is defined, each once. -/
def transitionPairs (agg : ProcedureAggregate) : List (String × String) :=
  (agg.transitions.map fun t => (t.from_state, t.to_state)).dedup

/-- The states that an event shows, if it shows both. -/
def changeOf (event : AuditEvent) : Option (String × String) :=
  match event.from_state, event.to_state with
  | some from_state, some to_state => some (from_state, to_state)
  | _, _ => none

def definedTransitions (blueprint : AuditBlueprint) : OrderedMap String (List (String × String)) :=
  .ofList (blueprint.procedures.map fun proc => (proc.id, transitionPairs proc.aggregate))

def totalDefined (blueprint : AuditBlueprint) : ℕ :=
  (blueprint.procedures.map fun proc => (transitionPairs proc.aggregate).length).sum

/-- The accumulators of the traversal; those of a procedure are its valid changes and all. -/
structure Tally where
  global_valid : ℕ
  global_total : ℕ
  observed_triples : Finset (String × String × String)
  proc_accum : OrderedMap String (ℕ × ℕ)
  anomaly_events : ℕ
  anomaly_by_type : OrderedMap String ℕ

def Tally.start : Tally := ⟨0, 0, ∅, .empty, 0, .empty⟩

def isValid (defined : OrderedMap String (List (String × String))) (procedure_id : String)
    (change : String × String) : Bool :=
  ((defined.find? procedure_id).map fun pairs => decide (change ∈ pairs)).getD false

def tallyAnomaly (tally : Tally) (event : AuditEvent) : Tally :=
  if event.is_anomaly then
    { tally with
      anomaly_events := tally.anomaly_events + 1
      anomaly_by_type := addCount tally.anomaly_by_type
        ((event.anomaly_type.map AuditAnomalyType.text).getD "unknown", 1) }
  else tally

def tallyEvent (defined : OrderedMap String (List (String × String))) (tally : Tally)
    (event : AuditEvent) : Tally :=
  let tally := tallyAnomaly tally event
  match changeOf event with
  | none => tally
  | some change =>
      let valid := if isValid defined event.procedure_id change then 1 else 0
      { tally with
        global_total := tally.global_total + 1
        global_valid := tally.global_valid + valid
        proc_accum := tally.proc_accum.upsert event.procedure_id fun entry =>
          ((entry.getD (0, 0)).1 + valid, (entry.getD (0, 0)).2 + 1)
        observed_triples := insert (event.procedure_id, change) tally.observed_triples }

def procedureConformance (defined : OrderedMap String (List (String × String))) (tally : Tally)
    (proc : BlueprintProcedure) : ProcedureConformance :=
  let accum := (tally.proc_accum.find? proc.id).getD (0, 0)
  { procedure_id := proc.id
    fitness := ratio accum.1 accum.2 1
    transitions_observed := accum.2
    transitions_defined := ((defined.find? proc.id).map List.length).getD 0 }

def analyze_conformance (events : List AuditEvent) (blueprint : AuditBlueprint) :
    ConformanceReport :=
  let defined := definedTransitions blueprint
  let tally := events.foldl (tallyEvent defined) .start
  { fitness := ratio tally.global_valid tally.global_total 1
    precision := ratio tally.observed_triples.card (totalDefined blueprint) 0
    generalization := none
    anomaly_stats :=
      { total_events := events.length
        anomaly_events := tally.anomaly_events
        anomaly_rate := ratio tally.anomaly_events events.length 0
        by_type := tally.anomaly_by_type }
    per_procedure := blueprint.procedures.map (procedureConformance defined tally) }

section Tallies

variable {defined : OrderedMap String (List (String × String))} {tally : Tally}
  {event : AuditEvent} {events : List AuditEvent}

/-- The event shows a change of state. -/
def Changes (event : AuditEvent) : Prop := (changeOf event).isSome

instance (event : AuditEvent) : Decidable (Changes event) := by
  unfold Changes
  infer_instance

/-- The event shows a change of state that is defined. -/
def Valid (defined : OrderedMap String (List (String × String))) (event : AuditEvent) : Prop :=
  ∃ change, changeOf event = some change ∧ isValid defined event.procedure_id change = true

instance (event : AuditEvent) : Decidable (Valid defined event) :=
  decidable_of_iff ((changeOf event).any (isValid defined event.procedure_id) = true) <| by
    rw [Valid, Option.any_eq_true]

theorem Valid.changes (h : Valid defined event) : Changes event := by
  obtain ⟨change, hchange, -⟩ := h
  rw [Changes, hchange]
  rfl

/-- What a traversal of events adds to the accumulators. -/
structure Tallied (defined : OrderedMap String (List (String × String))) (tally : Tally)
    (events : List AuditEvent) (tally' : Tally) : Prop where
  valid : tally'.global_valid = tally.global_valid + events.countP (Valid defined ·)
  total : tally'.global_total = tally.global_total + events.countP (Changes ·)
  triples : ∀ triple, triple ∈ tally'.observed_triples ↔ triple ∈ tally.observed_triples ∨
    ∃ event ∈ events, event.procedure_id = triple.1 ∧ changeOf event = some triple.2
  accum : ∀ id, (tally'.proc_accum.find? id).getD (0, 0) =
    (((tally.proc_accum.find? id).getD (0, 0)).1 +
        events.countP (fun e => e.procedure_id = id ∧ Valid defined e),
      ((tally.proc_accum.find? id).getD (0, 0)).2 +
        events.countP (fun e => e.procedure_id = id ∧ Changes e))
  anomalies : tally'.anomaly_events = tally.anomaly_events + events.countP (·.is_anomaly)
  by_type : tally'.anomaly_by_type.values.sum =
    tally.anomaly_by_type.values.sum + events.countP (·.is_anomaly)

theorem Tallied.trans {events' : List AuditEvent} {tally' tally'' : Tally}
    (h : Tallied defined tally events tally') (h' : Tallied defined tally' events' tally'') :
    Tallied defined tally (events ++ events') tally'' := by
  constructor
  · rw [h'.valid, h.valid, List.countP_append, Nat.add_assoc]
  · rw [h'.total, h.total, List.countP_append, Nat.add_assoc]
  · intro triple
    rw [h'.triples, h.triples, or_assoc]
    simp only [List.mem_append, or_and_right, exists_or]
  · intro id
    rw [h'.accum, h.accum, List.countP_append, List.countP_append]
    simp only [Nat.add_assoc]
  · rw [h'.anomalies, h.anomalies, List.countP_append, Nat.add_assoc]
  · rw [h'.by_type, h.by_type, List.countP_append, Nat.add_assoc]

theorem tallyAnomaly_cases (tally : Tally) (event : AuditEvent) :
    ∃ by_type, tallyAnomaly tally event =
        { tally with
          anomaly_events := tally.anomaly_events + [event].countP (·.is_anomaly)
          anomaly_by_type := by_type } ∧
      by_type.values.sum = tally.anomaly_by_type.values.sum + [event].countP (·.is_anomaly) := by
  rw [tallyAnomaly, List.countP_singleton]
  split
  · exact ⟨_, rfl, sum_values_addCount _ _⟩
  · exact ⟨_, rfl, rfl⟩

theorem tallied_tallyEvent (defined : OrderedMap String (List (String × String))) (tally : Tally)
    (event : AuditEvent) : Tallied defined tally [event] (tallyEvent defined tally event) := by
  obtain ⟨by_type, heq, hsum⟩ := tallyAnomaly_cases tally event
  rw [tallyEvent, heq]
  cases hchange : changeOf event with
  | none =>
      have hno : ¬Changes event := by rw [Changes, hchange]; decide
      have hinvalid : ¬Valid defined event := fun h => hno h.changes
      constructor <;> simp [hno, hinvalid, hsum, hchange]
  | some change =>
      have hyes : Changes event := by rw [Changes, hchange]; rfl
      have hvalid : Valid defined event ↔ isValid defined event.procedure_id change = true := by
        simp [Valid, hchange]
      constructor
      · simp [hvalid]
      · simp [hyes]
      · rintro ⟨id, pair⟩
        simp [hchange, eq_comm, or_comm]
      · intro id
        dsimp only
        rw [OrderedMap.find?_upsert]
        by_cases hid : id = event.procedure_id
        · subst hid
          simp [hyes, hvalid]
        · simp [hid, Ne.symm hid]
      · simp
      · exact hsum

theorem tallied_foldl (defined : OrderedMap String (List (String × String))) (tally : Tally)
    (events : List AuditEvent) :
    Tallied defined tally events (events.foldl (tallyEvent defined) tally) := by
  induction events generalizing tally with
  | nil => constructor <;> simp
  | cons event events ih =>
      rw [List.foldl_cons, ← List.singleton_append]
      exact (tallied_tallyEvent defined tally event).trans (ih _)

end Tallies

section Ratios

variable {part whole : ℕ}

theorem ratio_eq_one_iff (h : part ≤ whole) : ratio part whole 1 = 1 ↔ part = whole := by
  rw [ratio]
  split
  · rename_i hpos
    rw [div_eq_one_iff_eq (Nat.cast_ne_zero.mpr hpos.ne'), Nat.cast_inj]
  · exact iff_of_true rfl (by omega)

theorem ratio_le_one (h : part ≤ whole) {default : ℚ} (hdefault : default ≤ 1) :
    ratio part whole default ≤ 1 := by
  rw [ratio]
  split
  · rename_i hpos
    rw [div_le_one (Nat.cast_pos.mpr hpos)]
    exact Nat.cast_le.mpr h
  · exact hdefault

end Ratios

section Reports

variable {bp : AuditBlueprint} {events : List AuditEvent}

/-- The blueprint has a procedure of the id with a transition between the states. -/
def Declared (bp : AuditBlueprint) (id : String) (change : String × String) : Prop :=
  ∃ proc ∈ bp.procedures, proc.id = id ∧
    ∃ t ∈ proc.aggregate.transitions, (t.from_state, t.to_state) = change

theorem mem_transitionPairs {agg : ProcedureAggregate} {change : String × String} :
    change ∈ transitionPairs agg ↔
      ∃ t ∈ agg.transitions, (t.from_state, t.to_state) = change := by
  rw [transitionPairs, List.mem_dedup, List.mem_map]

theorem find?_definedTransitions (hnodup : (bp.procedures.map (·.id)).Nodup)
    {proc : BlueprintProcedure} (hproc : proc ∈ bp.procedures) :
    (definedTransitions bp).find? proc.id = some (transitionPairs proc.aggregate) := by
  refine OrderedMap.find?_ofList_eq_some_of_nodup ?_ (List.mem_map_of_mem
    (f := fun proc : BlueprintProcedure => (proc.id, transitionPairs proc.aggregate)) hproc)
  rw [List.map_map]
  exact hnodup

theorem isValid_iff (hnodup : (bp.procedures.map (·.id)).Nodup) {id : String}
    {change : String × String} :
    isValid (definedTransitions bp) id change = true ↔ Declared bp id change := by
  constructor
  · intro h
    rw [isValid] at h
    cases hfind : (definedTransitions bp).find? id with
    | none =>
        rw [hfind] at h
        cases h
    | some pairs =>
        rw [hfind] at h
        obtain ⟨proc, hproc, heq⟩ := List.mem_map.mp (OrderedMap.mem_of_find?_ofList hfind)
        cases heq
        exact ⟨proc, hproc, rfl, mem_transitionPairs.mp (of_decide_eq_true h)⟩
  · rintro ⟨proc, hproc, rfl, ht⟩
    rw [isValid, find?_definedTransitions hnodup hproc]
    exact decide_eq_true (mem_transitionPairs.mpr ht)

theorem valid_iff (hnodup : (bp.procedures.map (·.id)).Nodup) {event : AuditEvent} :
    Valid (definedTransitions bp) event ↔
      ∃ change, changeOf event = some change ∧ Declared bp event.procedure_id change := by
  simp only [Valid, isValid_iff hnodup]

theorem countP_valid_eq_iff {defined : OrderedMap String (List (String × String))} :
    events.countP (Valid defined ·) = events.countP (Changes ·) ↔
      ∀ event ∈ events, Changes event → Valid defined event := by
  have hboth : events.countP (Valid defined ·) =
      (events.filter (Changes ·)).countP (Valid defined ·) := by
    rw [List.countP_filter]
    refine List.countP_congr fun event _ => ?_
    simpa using Valid.changes
  rw [hboth, List.countP_eq_length_filter (p := fun event => decide (Changes event)),
    List.countP_eq_length]
  simp [List.mem_filter]

theorem card_observed_le {tally : Tally}
    (htallied : Tallied (definedTransitions bp) .start events tally)
    (hdeclared : ∀ event ∈ events, ∀ change, changeOf event = some change →
      Declared bp event.procedure_id change) :
    tally.observed_triples.card ≤ totalDefined bp := by
  have hsubset : tally.observed_triples ⊆ (bp.procedures.flatMap fun proc =>
      (transitionPairs proc.aggregate).map fun change => (proc.id, change)).toFinset := by
    rintro ⟨id, change⟩ htriple
    rw [htallied.triples] at htriple
    rcases htriple with hstart | ⟨event, hevent, rfl, hchange⟩
    · cases hstart
    · obtain ⟨proc, hproc, hid, ht⟩ := hdeclared event hevent change hchange
      rw [List.mem_toFinset, List.mem_flatMap]
      refine ⟨proc, hproc, List.mem_map.mpr ⟨change, mem_transitionPairs.mpr ht, ?_⟩⟩
      rw [hid]
  refine (Finset.card_le_card hsubset).trans ((List.toFinset_card_le _).trans_eq ?_)
  rw [List.length_flatMap, totalDefined]
  simp only [List.length_map]

theorem global_valid_le (events : List AuditEvent) :
    events.countP (Valid (definedTransitions bp) ·) ≤ events.countP (Changes ·) := by
  refine List.countP_mono_left fun e _ he => ?_
  exact decide_eq_true (of_decide_eq_true he).changes

theorem fitness_eq (events : List AuditEvent) (bp : AuditBlueprint) :
    (analyze_conformance events bp).fitness =
      ratio (events.countP (Valid (definedTransitions bp) ·)) (events.countP (Changes ·)) 1 := by
  have htallied := tallied_foldl (definedTransitions bp) .start events
  rw [analyze_conformance, htallied.valid, htallied.total, Tally.start, Nat.zero_add, Nat.zero_add]

theorem fitness_eq_one_iff (hnodup : (bp.procedures.map (·.id)).Nodup) :
    (analyze_conformance events bp).fitness = 1 ↔ ∀ event ∈ events, ∀ change,
      changeOf event = some change → Declared bp event.procedure_id change := by
  rw [fitness_eq, ratio_eq_one_iff (global_valid_le events), countP_valid_eq_iff]
  simp only [valid_iff hnodup]
  refine forall₂_congr fun event _ => ⟨fun h change hchange => ?_, fun h hchanges => ?_⟩
  · obtain ⟨change', hchange', hdeclared⟩ := h (by rw [Changes, hchange]; rfl)
    rw [hchange] at hchange'
    cases hchange'
    exact hdeclared
  · obtain ⟨change, hchange⟩ := Option.isSome_iff_exists.mp hchanges
    exact ⟨change, hchange, h change hchange⟩

theorem precision_le_one (h : ∀ event ∈ events, ∀ change, changeOf event = some change →
    Declared bp event.procedure_id change) : (analyze_conformance events bp).precision ≤ 1 :=
  ratio_le_one (card_observed_le (tallied_foldl (definedTransitions bp) .start events) h)
    zero_le_one

end Reports

section Runs

variable {σ δ A : Type} {services : Services σ δ A}

/-- Only the events of transitions show a change of state. -/
def OnlyTransitions (log : List AuditEvent) : Prop :=
  ∀ event ∈ log, Changes event → event.event_type = "state_transition"

theorem OnlyTransitions.snoc {log : List AuditEvent} {event : AuditEvent} (h : OnlyTransitions log)
    (hevent : Changes event → event.event_type = "state_transition") :
    OnlyTransitions (log ++ [event]) := by
  rw [OnlyTransitions, List.forall_mem_append, List.forall_mem_singleton]
  exact ⟨h, hevent⟩

theorem onlyTransitions_execute_step (overlay : GenerationOverlay) (context : EngagementContext)
    (proc : BlueprintProcedure) (phase_id : String) (acc : RunAccum σ δ A) (step : BlueprintStep)
    (h : OnlyTransitions acc.event_log) : OnlyTransitions
      (execute_step services overlay context proc phase_id acc step).event_log := by
  obtain ⟨hlog, -, -⟩ := injectAnomaly_frame services proc.id step.id
    (advance_step_time services acc) (anomalyChecks overlay.anomalies)
  have hkept : OnlyTransitions (check_anomaly_injection services overlay proc.id step.id
      (advance_step_time services acc)).2.event_log := by
    rw [check_anomaly_injection, hlog]
    exact h
  -- The event of a step has no states.
  exact hkept.snoc fun hchanges => by cases hchanges

theorem onlyTransitions_execute_steps (overlay : GenerationOverlay) (context : EngagementContext)
    (proc : BlueprintProcedure) (phase_id : String) (acc : RunAccum σ δ A)
    (h : OnlyTransitions acc.event_log) : OnlyTransitions
      (execute_steps services overlay context proc phase_id acc).event_log := by
  rw [execute_steps]
  induction proc.steps generalizing acc with
  | nil => exact h
  | cons step steps ih =>
      exact ih _ (onlyTransitions_execute_step overlay context proc phase_id acc step h)

theorem onlyTransitions_takeTransition (engine : AuditFsmEngine σ δ) (context : EngagementContext)
    (phase_id : String) (proc : BlueprintProcedure) (current_state : String)
    (transition : ProcedureTransition) (acc : RunAccum σ δ A)
    (h : OnlyTransitions acc.event_log) : OnlyTransitions
      (takeTransition services engine context phase_id proc current_state transition
        acc).event_log := by
  have hemit : OnlyTransitions
      (emitTransition services engine phase_id proc current_state transition acc).event_log :=
    h.snoc fun _ => rfl
  show OnlyTransitions (RunAccum.event_log (if _ then _ else _))
  split
  · exact onlyTransitions_execute_steps _ context proc phase_id _ hemit
  · exact hemit

theorem onlyTransitions_walkProcedure (engine : AuditFsmEngine σ δ) (context : EngagementContext)
    (phase_id : String) (proc : BlueprintProcedure) (iterations : ℕ) (current_state : String)
    (self_loop_count : ℕ) (acc : RunAccum σ δ A) (h : OnlyTransitions acc.event_log) :
    OnlyTransitions (walkProcedure services engine context phase_id proc iterations current_state
      self_loop_count acc).event_log := by
  induction iterations generalizing current_state self_loop_count acc with
  | zero => exact h
  | succ iterations ih =>
      rw [walkProcedure]
      split
      · exact h
      · dsimp only
        split
        · exact h
        · exact ih _ _ _ (onlyTransitions_takeTransition engine context phase_id proc _ _ _ h)

theorem onlyTransitions_run_engagement {order : HashOrder} {engine engine' : AuditFsmEngine σ δ}
    {context : EngagementContext} {result : EngagementResult A}
    (h : run_engagement services order engine context = .ok (result, engine')) :
    OnlyTransitions result.event_log := by
  rw [run_engagement] at h
  obtain ⟨exec_order, hsort⟩ := exists_ok_of_map h
  have hrun : ∀ (ids : List String) (acc : RunAccum σ δ A), OnlyTransitions acc.event_log →
      OnlyTransitions (ids.foldl (runProcedure services engine context) acc).event_log := by
    intro ids
    induction ids with
    | nil => exact fun acc hacc => hacc
    | cons id ids ih =>
        intro acc hacc
        refine ih _ ?_
        rw [runProcedure]
        split
        · exact hacc
        · split
          · exact hacc
          · exact onlyTransitions_walkProcedure engine context _ _ _ _ _ _ hacc
  rw [hsort] at h
  have hlog : (finishRun engine context (exec_order.foldl (runProcedure services engine context)
      (startAccum services engine context))).1 = result := congrArg Prod.fst (Except.ok.inj h)
  rw [← hlog]
  exact hrun exec_order _ (List.forall_mem_nil _)

theorem exists_moves_of_mem_path {agg : ProcedureAggregate} {s s' : String}
    {events : List AuditEvent} (hpath : Path (Moves agg) s events s') {event : AuditEvent}
    (hevent : event ∈ events) : ∃ a b, Moves agg a event b := by
  induction hpath with
  | nil => cases hevent
  | cons hfirst _ ih =>
      rcases List.mem_cons.mp hevent with rfl | hevent
      · exact ⟨_, _, hfirst⟩
      · exact ih hevent

theorem nodup_of_run_engagement {order : HashOrder} {engine engine' : AuditFsmEngine σ δ}
    {context : EngagementContext} {result : EngagementResult A}
    (h : run_engagement services order engine context = .ok (result, engine')) :
    (engine.blueprint.procedures.map (·.id)).Nodup := by
  rw [run_engagement] at h
  obtain ⟨exec_order, hsort⟩ := exists_ok_of_map h
  have horder := executionOrder_of_topological_sort hsort
  exact horder.perm.nodup_iff.mp horder.nodup

theorem declared_of_run_engagement {order : HashOrder} {engine engine' : AuditFsmEngine σ δ}
    {context : EngagementContext} {result : EngagementResult A}
    (h : run_engagement services order engine context = .ok (result, engine')) :
    ∀ event ∈ result.event_log, ∀ change, changeOf event = some change →
      Declared engine.blueprint event.procedure_id change := by
  intro event hevent change hchange
  have htraced := traced_of_run_engagement h
  obtain ⟨proc, hproc, hid, s, hs⟩ := htraced.reported event hevent
  have htype := onlyTransitions_run_engagement h event hevent (by rw [Changes, hchange]; rfl)
  have hmem : event ∈ transitionEvents proc.id result.event_log :=
    List.mem_filter.mpr ⟨hevent, decide_eq_true ⟨hid.symm, htype⟩⟩
  obtain ⟨a, b, t, ht, rfl, rfl, hfrom, hto, -⟩ :=
    exists_moves_of_mem_path (htraced.path proc hproc s hs) hmem
  refine ⟨proc, hproc, hid, t, ht, ?_⟩
  rw [changeOf, hfrom, hto] at hchange
  exact Option.some.inj hchange

/-- The log of every run that succeeds conforms to the blueprint of the engine: its fitness is
one, as that of every procedure, its precision is one at most, and no procedure shows more
transitions than its limit of iterations. -/
theorem run_engagement_conforms {order : HashOrder} {engine engine' : AuditFsmEngine σ δ}
    {context : EngagementContext} {result : EngagementResult A}
    (h : run_engagement services order engine context = .ok (result, engine')) :
    (analyze_conformance result.event_log engine.blueprint).fitness = 1 ∧
    (analyze_conformance result.event_log engine.blueprint).precision ≤ 1 ∧
    ∀ p ∈ (analyze_conformance result.event_log engine.blueprint).per_procedure,
      p.fitness = 1 ∧ p.transitions_observed ≤
        IterationLimits.limitOf engine.overlay.iteration_limits p.procedure_id := by
  have hnodup := nodup_of_run_engagement h
  have hdeclared := declared_of_run_engagement h
  refine ⟨(fitness_eq_one_iff hnodup).mpr hdeclared, precision_le_one hdeclared, fun p hp => ?_⟩
  obtain ⟨proc, hproc, rfl⟩ := List.mem_map.mp hp
  have htallied := tallied_foldl (definedTransitions engine.blueprint) .start result.event_log
  have htransitions : (result.event_log.countP fun e => e.procedure_id = proc.id ∧ Changes e) ≤
      IterationLimits.limitOf engine.overlay.iteration_limits proc.id := by
    refine le_trans ?_ ((traced_of_run_engagement h).limit proc.id)
    rw [transitionEvents, ← List.countP_eq_length_filter]
    refine List.countP_mono_left fun e he hchanges => ?_
    rw [decide_eq_true_eq] at hchanges ⊢
    exact ⟨hchanges.1, onlyTransitions_run_engagement h e he hchanges.2⟩
  have hvalid : (result.event_log.countP fun e =>
      e.procedure_id = proc.id ∧ Valid (definedTransitions engine.blueprint) e) =
      result.event_log.countP fun e => e.procedure_id = proc.id ∧ Changes e := by
    refine List.countP_congr fun e he => ?_
    rw [decide_eq_true_eq, decide_eq_true_eq]
    refine and_congr_right fun _ => ⟨Valid.changes, fun hchanges => ?_⟩
    obtain ⟨change, hchange⟩ := Option.isSome_iff_exists.mp hchanges
    exact (valid_iff hnodup).mpr ⟨change, hchange, hdeclared e he change hchange⟩
  rw [procedureConformance, htallied.accum]
  simp only [Tally.start, OrderedMap.find?_empty, Option.getD_none, Nat.zero_add]
  exact ⟨(ratio_eq_one_iff hvalid.le).mpr hvalid, htransitions⟩

variable (services) in
theorem exists_run_engagement {order : HashOrder} {engine : AuditFsmEngine σ δ}
    (h : engine.bwp.validate order = .ok ()) (context : EngagementContext) :
    ∃ result engine', run_engagement services order engine context = .ok (result, engine') := by
  obtain ⟨sorted, hsorted⟩ := exists_topological_sort_of_validate h
  rw [run_engagement, hsorted]
  exact ⟨_, _, rfl⟩

end Runs

theorem sample_run_conforms :
    ∃ result engine', run_engagement countingServices .insertion sampleEngine ⟨⟨20103⟩⟩ =
        .ok (result, engine') ∧
      (analyze_conformance result.event_log sampleEngine.blueprint).fitness = 1 ∧
      (analyze_conformance result.event_log sampleEngine.blueprint).precision ≤ 1 ∧
      ∀ p ∈ (analyze_conformance result.event_log sampleEngine.blueprint).per_procedure,
        p.fitness = 1 ∧ p.transitions_observed ≤
          IterationLimits.limitOf sampleEngine.overlay.iteration_limits p.procedure_id := by
  have hvalid : sampleEngine.bwp.validate .insertion = .ok () := by decide
  obtain ⟨result, engine', hrun⟩ := exists_run_engagement countingServices hvalid ⟨⟨20103⟩⟩
  exact ⟨result, engine', hrun, run_engagement_conforms hrun⟩

end Datasynth.Audit.Conformance
