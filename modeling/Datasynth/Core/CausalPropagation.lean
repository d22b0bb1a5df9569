import Mathlib.Algebra.Order.AbsoluteValue.Basic
import Mathlib.Algebra.Order.Field.Rat
import Datasynth.Core.CausalDag
import Datasynth.Lib.OrderedEvaluation

/-!
Which causal graphs are valid, and what an intervention does in a valid one, whatever
topological order its effects are propagated in.
-/

namespace Datasynth.Core.CausalPropagation

open Datasynth.Core.CausalDag
open Datasynth.Lib.HashIteration
open Datasynth.Lib.OrderedEvaluation
open Datasynth.Lib.SortedEntries
open Datasynth.Lib.TopologicalOrder

universe u

variable {K : Type u}

structure WellFormed (dag : CausalDAG K) : Prop where
  nodup : dag.node_ids.Nodup
  known : ∀ e ∈ dag.ends, e.1 ∈ dag.node_ids ∧ e.2 ∈ dag.node_ids
  acyclic : Acyclic dag.ends

/-- All nodes, each once and after the sources of its edges. -/
structure IsTopologicalOrder (dag : CausalDAG K) (l : List String) : Prop where
  schedule : Schedule dag.ends dag.node_ids l
  complete : dag.node_ids ⊆ l

section Validation

variable {dag : CausalDAG K} {order : HashOrder}

theorem firstDuplicate_eq_none_iff {seen ids : List String} :
    firstDuplicate seen ids = none ↔ ids.Nodup ∧ ∀ id ∈ ids, id ∉ seen := by
  induction ids generalizing seen with
  | nil => simp [firstDuplicate]
  | cons id ids ih =>
      rw [firstDuplicate]
      split
      · rename_i hseen
        simp [hseen]
      · rename_i hnew
        rw [ih, List.nodup_cons, List.forall_mem_cons]
        constructor
        · rintro ⟨hnodup, hothers⟩
          refine ⟨⟨fun hid => hothers id hid List.mem_cons_self, hnodup⟩, hnew, ?_⟩
          intro id' hid' hseen
          exact hothers id' hid' (List.mem_cons_of_mem _ hseen)
        · rintro ⟨⟨hid, hnodup⟩, -, hothers⟩
          refine ⟨hnodup, ?_⟩
          intro id' hid' hseen
          rcases List.mem_cons.mp hseen with rfl | hseen
          · exact hid hid'
          · exact hothers id' hid' hseen

theorem unknownEnd_eq_none_iff :
    dag.unknownEnd = none ↔ ∀ e ∈ dag.ends, e.1 ∈ dag.node_ids ∧ e.2 ∈ dag.node_ids := by
  rw [CausalDAG.unknownEnd, List.findSome?_eq_none_iff, CausalDAG.ends, List.forall_mem_map]
  apply forall₂_congr
  intro e _
  by_cases hfrom : e.from_node ∈ dag.node_ids
  · by_cases hto : e.to_node ∈ dag.node_ids
    · simp [hfrom, hto]
    · simp [hfrom, hto]
  · simp [hfrom]

theorem dependents_tables :
    (fun node => (dag.tables.2.find? node).getD []) = dependentsOf dag.ends := by
  funext node
  rw [CausalDAG.tables, getD_find?_tallied, find?_insertEach]
  split <;> rfl

theorem degree_tables (v : String) (degree : ℕ) (hv : dag.tables.1.find? v = some degree) :
    degree = (dag.ends.map Prod.snd).count v := by
  have hdegree := getD_find?_tallyEdges dag.ends
    (dag.node_ids.foldl (fun in_degree id => in_degree.insert id 0) .empty,
      dag.node_ids.foldl (fun adjacency id => adjacency.insert id []) .empty) v
  rw [CausalDAG.tables] at hv
  rw [hv, find?_insertEach] at hdegree
  split at hdegree
  · simpa using hdegree
  · simpa using hdegree

theorem mem_keys_tables (hknown : ∀ e ∈ dag.ends, e.1 ∈ dag.node_ids ∧ e.2 ∈ dag.node_ids)
    {v : String} : v ∈ dag.tables.1.keys ↔ v ∈ dag.node_ids := by
  rw [OrderedMap.mem_keys_iff, CausalDAG.tables, isSome_find?_tallyEdges, find?_insertEach]
  constructor
  · rintro (hids | hends)
    · by_contra hv
      rw [if_neg hv] at hids
      cases hids
    · obtain ⟨e, he, rfl⟩ := List.mem_map.mp hends
      exact (hknown e he).2
  · intro hv
    left
    rw [if_pos hv]
    rfl

variable (order) in
theorem schedule_kahnOrder
    (hknown : ∀ e ∈ dag.ends, e.1 ∈ dag.node_ids ∧ e.2 ∈ dag.node_ids) :
    Schedule dag.ends dag.node_ids (dag.kahnOrder order) := by
  have hschedule := (schedule_finishFrom degree_tables
    (fun e he => (mem_keys_tables hknown).mpr (hknown e he).1) (fun l => List.Perm.refl (id l))
    (((order.perm dag.tables.1.entries).filter fun e => e.2 = 0).map Prod.fst)).1
  rw [← dependents_tables] at hschedule
  refine ⟨hschedule.nodup, ?_, hschedule.precedes⟩
  intro v hv
  exact (mem_keys_tables hknown).mp (hschedule.subset hv)

variable (order) in
theorem length_kahnOrder_iff (hnodup : dag.node_ids.Nodup)
    (hknown : ∀ e ∈ dag.ends, e.1 ∈ dag.node_ids ∧ e.2 ∈ dag.node_ids) :
    (dag.kahnOrder order).length = dag.nodes.length ↔ Acyclic dag.ends := by
  have hschedule := schedule_kahnOrder order hknown
  have hcount : dag.node_ids.length = dag.nodes.length := List.length_map _
  have hsubperm := List.subperm_of_subset hschedule.nodup hschedule.subset
  constructor
  · intro hlength
    have hperm := hsubperm.perm_of_length_le (by omega)
    exact hschedule.acyclic fun e he => hperm.mem_iff.mpr (hknown e he).2
  · intro hacyclic
    apply le_antisymm
    · rw [← hcount]
      exact hsubperm.length_le
    · rw [← hcount]
      apply (List.subperm_of_subset hnodup _).length_le
      intro v hv
      rw [CausalDAG.kahnOrder, dependents_tables]
      exact mem_finishFrom_of_acyclic degree_tables
        (fun e he => (mem_keys_tables hknown).mpr (hknown e he).1) (fun l => List.Perm.refl (id l))
        (((order.perm dag.tables.1.entries).filter fun e => e.2 = 0).map Prod.fst) hacyclic
        ((mem_keys_tables hknown).mpr hv)

variable (order) in
theorem isOk_validate_iff : (dag.validate order).isOk = true ↔ WellFormed dag := by
  rw [CausalDAG.validate]
  cases hduplicate : firstDuplicate [] dag.node_ids with
  | some id =>
      constructor
      · intro h
        cases h
      · intro h
        rw [firstDuplicate_eq_none_iff.mpr ⟨h.nodup, by simp⟩] at hduplicate
        cases hduplicate
  | none =>
      have hnodup := (firstDuplicate_eq_none_iff.mp hduplicate).1
      cases hunknown : dag.unknownEnd with
      | some id =>
          constructor
          · intro h
            cases h
          · intro h
            rw [unknownEnd_eq_none_iff.mpr h.known] at hunknown
            cases hunknown
      | none =>
          have hknown := unknownEnd_eq_none_iff.mp hunknown
          have hlength := length_kahnOrder_iff order hnodup hknown
          simp only
          split
          · rename_i hshort
            constructor
            · intro h
              cases h
            · intro h
              exact absurd (hlength.mpr h.acyclic) hshort
          · rename_i hfull
            rw [not_not] at hfull
            exact iff_of_true rfl ⟨hnodup, hknown, hlength.mp hfull⟩

theorem validate_eq_ok {dag' : CausalDAG K} (h : dag.validate order = .ok dag') :
    WellFormed dag ∧ dag' = { dag with topological_order := dag.kahnOrder order } := by
  have hwell : WellFormed dag := by
    rw [← isOk_validate_iff order, h]
    rfl
  refine ⟨hwell, ?_⟩
  rw [CausalDAG.validate, firstDuplicate_eq_none_iff.mpr ⟨hwell.nodup, by simp⟩] at h
  simp only [unknownEnd_eq_none_iff.mpr hwell.known] at h
  split at h
  · cases h
  · exact (Except.ok.inj h).symm

variable (order) in
theorem isTopologicalOrder_kahnOrder (h : WellFormed dag) :
    IsTopologicalOrder dag (dag.kahnOrder order) := by
  have hschedule := schedule_kahnOrder order h.known
  refine ⟨hschedule, ?_⟩
  have hlength := (length_kahnOrder_iff order h.nodup h.known).mpr h.acyclic
  have hcount : dag.node_ids.length = dag.nodes.length := List.length_map _
  have hperm := (List.subperm_of_subset hschedule.nodup hschedule.subset).perm_of_length_le
    (by omega)
  exact hperm.symm.subset

end Validation

section Baselines

variable {dag : CausalDAG K} {interventions : OrderedMap String K}

theorem find_node_of_mem (h : dag.node_ids.Nodup) {node : CausalNode K} (hnode : node ∈ dag.nodes) :
    dag.find_node node.id = some node := by
  cases hfind : dag.find_node node.id with
  | none => simpa using List.find?_eq_none.mp hfind node hnode
  | some node' =>
      have hid : node'.id = node.id := by simpa using List.find?_some hfind
      rw [List.inj_on_of_nodup_map h (List.mem_of_find?_eq_some hfind) hnode hid]

theorem baselineOf_of_mem [Field K] (h : dag.node_ids.Nodup) {node : CausalNode K}
    (hnode : node ∈ dag.nodes) : dag.baselineOf node.id = node.baseline_value := by
  rw [CausalDAG.baselineOf, find_node_of_mem h hnode, Option.elim_some]

variable (dag) in
theorem find?_initialValues_of_intervened {id : String} {value : K}
    (h : interventions.find? id = some value) :
    (dag.initialValues interventions).find? id = some value := by
  rw [CausalDAG.initialValues, OrderedMap.find?_foldl_entries, h, Option.some_or]

theorem find?_initialValues_of_mem (hnodup : dag.node_ids.Nodup) {node : CausalNode K}
    (hnode : node ∈ dag.nodes) (h : interventions.find? node.id = none) :
    (dag.initialValues interventions).find? node.id = some node.baseline_value := by
  have hbaselines := OrderedMap.find?_ofList_eq_some_of_nodup
    (l := dag.nodes.map fun n => (n.id, n.baseline_value)) (by rwa [List.map_map])
    (List.mem_map.mpr ⟨node, hnode, rfl⟩)
  rw [OrderedMap.ofList, List.foldl_map] at hbaselines
  rw [CausalDAG.initialValues, OrderedMap.find?_foldl_entries, h, Option.none_or]
  exact hbaselines

end Baselines

section Propagation

variable [Field K] [LinearOrder K] {compute : TransferFunction K → K → K} {dag : CausalDAG K}
  {interventions : OrderedMap String K} {month : ℕ}

/-- The value of a node by the values of the others: intervened nodes and nodes without
an effect keep what they started with. -/
def nodeRule (compute : TransferFunction K → K → K) (dag : CausalDAG K)
    (interventions : OrderedMap String K) (month : ℕ) (id : String)
    (values : String → Option K) : Option (Option K) :=
  if (interventions.find? id).isSome then
    some ((dag.initialValues interventions).find? id)
  else
    match dag.effects compute month values id with
    | [] => some ((dag.initialValues interventions).find? id)
    | effects => (dag.newValue id effects).map some

theorem effects_congr {values values' : String → Option K} {id : String}
    (h : ∀ u, (u, id) ∈ dag.ends → values u = values' u) :
    dag.effects compute month values id = dag.effects compute month values' id := by
  apply List.filterMap_congr
  intro e he
  rw [List.mem_filter, decide_eq_true_eq] at he
  have hends : (e.from_node, id) ∈ dag.ends := List.mem_map.mpr ⟨e, he.1, by rw [he.2]⟩
  rw [CausalDAG.effectOf, CausalDAG.effectOf, h e.from_node hends]

theorem local_nodeRule : Local (fun u v => (u, v) ∈ dag.ends)
    (nodeRule compute dag interventions month) := by
  intro v σ τ h
  rw [nodeRule, nodeRule, effects_congr h]

omit [Field K] [LinearOrder K] in
theorem respects_of_schedule {ids l : List String} (h : Schedule dag.ends ids l) :
    Respects (fun u v => (u, v) ∈ dag.ends) l := by
  intro pre v post heq u hu hlate
  have hpre := h.precedes pre v post heq u hu
  have hnodup := h.nodup
  rw [heq, List.nodup_append] at hnodup
  exact hnodup.2.2 u hpre u hlate rfl

/-- The loop over the map evaluates the rules of the nodes. -/
theorem map_propagateAlong {l : List String} (hnodup : l.Nodup) {values : OrderedMap String K}
    (hinitial : ∀ id ∈ l, values.find? id = (dag.initialValues interventions).find? id) :
    (dag.propagateAlong compute interventions month l values).map (·.find?) =
      evaluate (nodeRule compute dag interventions month) l values.find? := by
  induction l generalizing values with
  | nil => rfl
  | cons id ids ih =>
      rw [List.nodup_cons] at hnodup
      rw [List.forall_mem_cons] at hinitial
      have hkeep : Function.update values.find? id
          ((dag.initialValues interventions).find? id) = values.find? := by
        rw [← hinitial.1, Function.update_eq_self]
      rw [CausalDAG.propagateAlong, CausalDAG.propagateNode, evaluate, nodeRule]
      split
      · rw [Option.bind_some, Option.bind_some, hkeep]
        exact ih hnodup.2 hinitial.2
      · cases dag.effects compute month values.find? id with
        | nil =>
            simp only [Option.bind_some]
            rw [hkeep]
            exact ih hnodup.2 hinitial.2
        | cons effect effects =>
            simp only
            cases dag.newValue id (effect :: effects) with
            | none => rfl
            | some value =>
                have hupdate : Function.update values.find? id (some value) =
                    (values.insert id value).find? := by
                  funext k
                  rw [OrderedMap.find?_insert, Function.update_apply]
                rw [Option.map_some, Option.map_some, Option.bind_some, Option.bind_some, hupdate]
                apply ih hnodup.2
                intro k hk
                rw [OrderedMap.find?_insert, if_neg (ne_of_mem_of_not_mem hk hnodup.1)]
                exact hinitial.2 k hk

theorem propagateAlong_congr {l l' : List String} (hl : IsTopologicalOrder dag l)
    (hl' : IsTopologicalOrder dag l') :
    dag.propagateAlong compute interventions month l (dag.initialValues interventions) =
      dag.propagateAlong compute interventions month l' (dag.initialValues interventions) := by
  have hmem : ∀ {l}, IsTopologicalOrder dag l → ∀ v, v ∈ l ↔ v ∈ dag.node_ids := fun h v =>
    ⟨fun hv => h.schedule.subset hv, fun hv => h.complete hv⟩
  have hinjective : Function.Injective fun m : OrderedMap String K => m.find? :=
    fun m m' h => OrderedMap.ext_find? fun k => congrFun h k
  apply Option.map_injective hinjective
  rw [map_propagateAlong hl.schedule.nodup fun _ _ => rfl,
    map_propagateAlong hl'.schedule.nodup fun _ _ => rfl]
  apply evaluate_congr local_nodeRule hl.schedule.nodup hl'.schedule.nodup
    (respects_of_schedule hl.schedule) (respects_of_schedule hl'.schedule)
  intro v
  rw [hmem hl, hmem hl']

/-- In a result every node has the value of its rule. -/
theorem propagate_eq_some {l : List String} (hl : IsTopologicalOrder dag l)
    {values : OrderedMap String K}
    (h : dag.propagateAlong compute interventions month l (dag.initialValues interventions) =
      some values) :
    (∀ id ∉ dag.node_ids, values.find? id = (dag.initialValues interventions).find? id) ∧
      ∀ id ∈ dag.node_ids,
        nodeRule compute dag interventions month id values.find? = some (values.find? id) := by
  have hmap : _ = evaluate (nodeRule compute dag interventions month) l _ :=
    map_propagateAlong hl.schedule.nodup fun id _ => rfl
  rw [h, Option.map_some, eq_comm, evaluate_eq_some_iff local_nodeRule hl.schedule.nodup
    (respects_of_schedule hl.schedule)] at hmap
  refine ⟨fun id hid => hmap.1 id fun hmem => hid (hl.schedule.subset hmem), ?_⟩
  intro id hid
  exact hmap.2 id (hl.complete hid)

section Results

variable {l : List String} {values : OrderedMap String K}

theorem find?_result_of_intervened (hl : IsTopologicalOrder dag l)
    (h : dag.propagateAlong compute interventions month l (dag.initialValues interventions) =
      some values) {id : String} {value : K} (hvalue : interventions.find? id = some value) :
    values.find? id = some value := by
  obtain ⟨hothers, hrules⟩ := propagate_eq_some hl h
  rw [← find?_initialValues_of_intervened dag hvalue]
  by_cases hid : id ∈ dag.node_ids
  · have hrule := hrules id hid
    rw [nodeRule, hvalue] at hrule
    exact (Option.some.inj hrule).symm
  · exact hothers id hid

theorem find?_result_of_no_effect (hwell : WellFormed dag) (hl : IsTopologicalOrder dag l)
    (h : dag.propagateAlong compute interventions month l (dag.initialValues interventions) =
      some values) {node : CausalNode K} (hnode : node ∈ dag.nodes)
    (hfree : interventions.find? node.id = none)
    (heffects : dag.effects compute month values.find? node.id = []) :
    values.find? node.id = some node.baseline_value := by
  have hrule := (propagate_eq_some hl h).2 node.id (List.mem_map_of_mem hnode)
  rw [nodeRule, hfree, heffects] at hrule
  rw [← find?_initialValues_of_mem hwell.nodup hnode hfree]
  exact (Option.some.inj hrule).symm

theorem find?_result_of_effects (hl : IsTopologicalOrder dag l)
    (h : dag.propagateAlong compute interventions month l (dag.initialValues interventions) =
      some values) {node : CausalNode K} (hnode : node ∈ dag.nodes)
    (hfree : interventions.find? node.id = none)
    (heffects : dag.effects compute month values.find? node.id ≠ []) :
    (dag.newValue node.id (dag.effects compute month values.find? node.id)).map some =
      some (values.find? node.id) := by
  have hrule := (propagate_eq_some hl h).2 node.id (List.mem_map_of_mem hnode)
  rw [nodeRule, hfree] at hrule
  cases hlist : dag.effects compute month values.find? node.id with
  | nil => exact absurd hlist heffects
  | cons effect effects =>
      rw [hlist] at hrule
      exact hrule

omit [Field K] in
theorem clamp_eq_some {value lower upper x : K} (h : clamp value lower upper = some x) :
    lower ≤ x ∧ x ≤ upper := by
  rw [clamp] at h
  split at h
  · rename_i hle
    cases h
    split
    · exact ⟨le_rfl, hle⟩
    · rename_i hlower
      split
      · exact ⟨hle, le_rfl⟩
      · rename_i hupper
        exact ⟨not_lt.mp hlower, not_lt.mp hupper⟩
  · cases h

theorem newValue_within {id : String} {effects : List K} {x lower upper : K} {node : CausalNode K}
    (hfind : dag.find_node id = some node) (hbounds : node.bounds = some (lower, upper))
    (h : dag.newValue id effects = some x) : lower ≤ x ∧ x ≤ upper := by
  rw [CausalDAG.newValue, hfind, Option.bind_some, hbounds] at h
  exact clamp_eq_some h

theorem isSome_newValue (hordered : ∀ node ∈ dag.nodes, ∀ bounds, node.bounds = some bounds →
    bounds.1 ≤ bounds.2) (id : String) (effects : List K) : (dag.newValue id effects).isSome := by
  rw [CausalDAG.newValue]
  cases hbounds : (dag.find_node id).bind (·.bounds) with
  | none => rfl
  | some bounds =>
      obtain ⟨node, hfind, hnode⟩ := Option.bind_eq_some_iff.mp hbounds
      have hle := hordered node (List.mem_of_find?_eq_some hfind) bounds hnode
      simp only [clamp, if_pos hle, Option.isSome_some]

theorem isSome_propagateAlong (hl : IsTopologicalOrder dag l)
    (hordered : ∀ node ∈ dag.nodes, ∀ bounds, node.bounds = some bounds → bounds.1 ≤ bounds.2) :
    (dag.propagateAlong compute interventions month l
      (dag.initialValues interventions)).isSome := by
  rw [← Option.isSome_map (f := (·.find?)), map_propagateAlong hl.schedule.nodup fun _ _ => rfl]
  apply isSome_evaluate
  intro id _ values
  rw [nodeRule]
  split
  · rfl
  · cases dag.effects compute month values id with
    | nil => rfl
    | cons effect effects => rw [Option.isSome_map, isSome_newValue hordered]

/-- The edges along which an intervention has an effect by the given month. -/
def Elapsed (dag : CausalDAG K) (month : ℕ) (u v : String) : Prop :=
  ∃ e ∈ dag.edges, e.from_node = u ∧ e.to_node = v ∧ e.lag_months ≤ month

/-- No intervention reaches the node. -/
def Unreached (dag : CausalDAG K) (interventions : OrderedMap String K) (month : ℕ)
    (id : String) : Prop :=
  ∀ source, (interventions.find? source).isSome →
    ¬ Relation.ReflTransGen (Elapsed dag month) source id

/-- An effect on a node has a source that left its baseline. -/
theorem exists_source_of_effects [IsStrictOrderedRing K] {find : String → Option K} {id : String}
    (h : dag.effects compute month find id ≠ []) :
    ∃ u, (u, id) ∈ dag.ends ∧ Elapsed dag month u id ∧ (find u).getD 0 ≠ dag.baselineOf u := by
  obtain ⟨effect, heffect⟩ := List.exists_mem_of_ne_nil _ h
  obtain ⟨e, he, hof⟩ := List.mem_filterMap.mp heffect
  rw [List.mem_filter, decide_eq_true_eq] at he
  rw [CausalDAG.effectOf] at hof
  split at hof
  · cases hof
  · rename_i hlag
    refine ⟨e.from_node, List.mem_map.mpr ⟨e, he.1, by rw [he.2]⟩,
      ⟨e, he.1, rfl, he.2, not_lt.mp hlag⟩, ?_⟩
    intro hbaseline
    have hsmall : |(find e.from_node).getD 0 - dag.baselineOf e.from_node| < (epsilon : K) := by
      rw [hbaseline, sub_self, abs_zero]
      exact one_div_pos.mpr (Nat.cast_pos.mpr (Nat.two_pow_pos 52))
    simp only [if_pos hsmall] at hof
    cases hof

omit [Field K] [LinearOrder K] in
theorem Unreached.source {u v : String} (h : Unreached dag interventions month v)
    (helapsed : Elapsed dag month u v) : Unreached dag interventions month u :=
  fun source hsource hpath => h source hsource (hpath.tail helapsed)

/-- Along the order no node that the interventions do not reach leaves its baseline. -/
theorem find?_result_of_unreached [IsStrictOrderedRing K] (hwell : WellFormed dag)
    (hl : IsTopologicalOrder dag l)
    (h : dag.propagateAlong compute interventions month l (dag.initialValues interventions) =
      some values) {id : String} (hid : id ∈ dag.node_ids) :
    Unreached dag interventions month id → values.find? id = some (dag.baselineOf id) := by
  refine hl.schedule.induction (p := fun id => Unreached dag interventions month id →
    values.find? id = some (dag.baselineOf id)) ?_ (hl.complete hid)
  intro v hv hsources hunreached
  obtain ⟨node, hnode, rfl⟩ := List.mem_map.mp (hl.schedule.subset hv)
  have hfree : interventions.find? node.id = none := by
    rw [← Option.not_isSome_iff_eq_none]
    intro hintervened
    exact hunreached node.id hintervened .refl
  rw [baselineOf_of_mem hwell.nodup hnode]
  apply find?_result_of_no_effect hwell hl h hnode hfree
  by_contra heffects
  obtain ⟨u, hends, helapsed, hleft⟩ := exists_source_of_effects heffects
  apply hleft
  rw [hsources u hends (hunreached.source helapsed), Option.getD_some]

/-- The stored order is read nowhere but in the loop. -/
theorem propagateAlong_topological_order (stored ids : List String) (values : OrderedMap String K) :
    { dag with topological_order := stored }.propagateAlong compute interventions month ids values =
      dag.propagateAlong compute interventions month ids values := by
  induction ids generalizing values with
  | nil => rfl
  | cons id ids ih =>
      rw [CausalDAG.propagateAlong, CausalDAG.propagateAlong]
      exact Option.bind_congr fun values _ => ih values

/-- What holds of a propagation through a validated graph. -/
structure Propagates (compute : TransferFunction K → K → K) (dag : CausalDAG K)
    (interventions : OrderedMap String K) (month : ℕ) : Prop where
  order_free : ∀ l, IsTopologicalOrder dag l →
    { dag with topological_order := l }.propagate compute interventions month =
      dag.propagate compute interventions month
  returns : (∀ node ∈ dag.nodes, ∀ bounds, node.bounds = some bounds → bounds.1 ≤ bounds.2) →
    (dag.propagate compute interventions month).isSome
  intervened : ∀ values, dag.propagate compute interventions month = some values →
    ∀ id value, interventions.find? id = some value → values.find? id = some value
  unreached : ∀ values, dag.propagate compute interventions month = some values →
    ∀ node ∈ dag.nodes, Unreached dag interventions month node.id →
      values.find? node.id = some node.baseline_value
  bounded : ∀ values, dag.propagate compute interventions month = some values →
    ∀ node ∈ dag.nodes, interventions.find? node.id = none →
      dag.effects compute month values.find? node.id ≠ [] →
      ∀ lower upper, node.bounds = some (lower, upper) →
        ∃ value, values.find? node.id = some value ∧ lower ≤ value ∧ value ≤ upper

theorem propagates_of_isTopologicalOrder [IsStrictOrderedRing K] (hwell : WellFormed dag)
    (hl : IsTopologicalOrder dag dag.topological_order) :
    Propagates compute dag interventions month where
  order_free l hl' := by
    rw [CausalDAG.propagate, propagateAlong_topological_order]
    exact propagateAlong_congr hl' hl
  returns hordered := isSome_propagateAlong hl hordered
  intervened values h id value hvalue := find?_result_of_intervened hl h hvalue
  unreached values h node hnode hunreached := by
    rw [← baselineOf_of_mem hwell.nodup hnode]
    exact find?_result_of_unreached hwell hl h (List.mem_map_of_mem hnode) hunreached
  bounded values h node hnode hfree heffects lower upper hbounds := by
    obtain ⟨value, hnew, hvalue⟩ := Option.map_eq_some_iff.mp
      (find?_result_of_effects hl h hnode hfree heffects)
    refine ⟨value, hvalue.symm, ?_⟩
    exact newValue_within (find_node_of_mem hwell.nodup hnode) hbounds hnew

end Results

end Propagation

theorem validate_and_propagate [Field K] [LinearOrder K] [IsStrictOrderedRing K]
    (order : HashOrder) (dag : CausalDAG K) :
    ((dag.validate order).isOk = true ↔ WellFormed dag) ∧
      ∀ dag', dag.validate order = .ok dag' → ∀ (fns : RealFunctions K)
        (interventions : OrderedMap String K) (month : ℕ),
        Propagates (TransferFunction.compute fns) dag' interventions month := by
  refine ⟨isOk_validate_iff order, ?_⟩
  intro dag' hvalid fns interventions month
  obtain ⟨hwell, rfl⟩ := validate_eq_ok hvalid
  have hkahn := isTopologicalOrder_kahnOrder order hwell
  exact propagates_of_isTopologicalOrder ⟨hwell.nodup, hwell.known, hwell.acyclic⟩
    ⟨hkahn.schedule, hkahn.complete⟩

/-- An increase of `a` is an increase of `b`, within the given bounds. -/
def increaseDag (bounds : ℚ × ℚ) : CausalDAG ℚ where
  nodes := [⟨"a", 0, none⟩, ⟨"b", 0, some bounds⟩]
  edges := [⟨"a", "b", .linear 1 0, 0, 1⟩]
  topological_order := ["a", "b"]

/-- Linear transfer functions use neither. -/
def unusedFunctions : RealFunctions ℚ := ⟨fun _ => 1, fun _ _ => 1⟩

theorem validate_and_propagate_increase :
    Propagates (TransferFunction.compute unusedFunctions) (increaseDag (0, 1))
      (OrderedMap.empty.insert "a" 5) 0 := by
  have hvalid : (increaseDag (0, 1)).validate .insertion = .ok (increaseDag (0, 1)) := rfl
  exact (validate_and_propagate .insertion _).2 _ hvalid _ _ _

/-- The bounds of `b` are in the wrong order. -/
theorem inverted_bounds_panic :
    (increaseDag (2, 1)).validate .insertion = .ok (increaseDag (2, 1)) ∧
      (increaseDag (2, 1)).propagate (TransferFunction.compute unusedFunctions)
        (OrderedMap.empty.insert "a" 5) 0 = none := by
  refine ⟨rfl, ?_⟩
  rw [← Option.not_isSome_iff_eq_none]
  decide +kernel

end Datasynth.Core.CausalPropagation
