import Datasynth.Audit.Loader

/-!
The order in which procedures are executed: every procedure once, after all of its
preconditions.
-/

namespace Datasynth.Audit.ProcedureOrder

open Datasynth.Audit.Loader
open Datasynth.Audit.Schema
open Datasynth.Lib.ExceptRuns
open Datasynth.Lib.HashIteration
open Datasynth.Lib.SortedEntries
open Datasynth.Lib.TopologicalOrder

theorem addEdge_eq_tallyEdge : addEdge = tallyEdge := rfl

/-- The executed order of all procedures. -/
structure ExecutionOrder (bwp : BlueprintWithPreconditions) (sorted : List String) : Prop where
  nodup : sorted.Nodup
  perm : sorted.Perm (bwp.blueprint.procedures.map (·.id))
  precedes : ∀ pre id post, sorted = pre ++ id :: post →
    ∀ deps, bwp.preconditions.find? id = some deps → ∀ dep ∈ deps, dep ∈ pre

section Order

variable {bwp : BlueprintWithPreconditions} {sorted done rest : List String} {id : String}

theorem ExecutionOrder.notMem_done (horder : ExecutionOrder bwp sorted)
    (hsorted : sorted = done ++ id :: rest) : id ∉ done := by
  have hnodup := horder.nodup
  rw [hsorted, List.nodup_append] at hnodup
  intro hmem
  exact hnodup.2.2 id hmem id List.mem_cons_self rfl

/-- Nothing that waits for a procedure is reached up to its turn. -/
theorem ExecutionOrder.notMem_of_waits (horder : ExecutionOrder bwp sorted)
    (hsorted : sorted = done ++ id :: rest) {k : String} {deps : List String}
    (hdeps : bwp.preconditions.find? k = some deps) (hid : id ∈ deps) : k ∉ done ++ [id] := by
  have hnew := horder.notMem_done hsorted
  intro hk
  rcases List.mem_append.mp hk with hk | hk
  · obtain ⟨before, after, rfl⟩ := List.append_of_mem hk
    have hbefore := horder.precedes before k (after ++ id :: rest)
      (by rw [hsorted, List.append_assoc, List.cons_append]) deps hdeps id hid
    exact hnew (List.mem_append_left _ hbefore)
  · rw [List.mem_singleton] at hk
    rw [hk] at hdeps
    exact hnew (horder.precedes done id rest hsorted deps hdeps id hid)

end Order

variable {order : HashOrder}

theorem mem_of_missingPreconditions_eq_nil {bp : AuditBlueprint}
    {preconditions : OrderedMap String (List String)}
    (h : missingPreconditions order bp preconditions = []) {id : String} {deps : List String}
    (hid : preconditions.find? id = some deps) {dep : String} (hdep : dep ∈ deps) :
    dep ∈ bp.procedures.map (·.id) := by
  by_contra hmissing
  rw [missingPreconditions, List.flatMap_eq_nil_iff] at h
  have hentry := h (id, deps)
    ((order.perm _).mem_iff.mpr ((OrderedMap.mem_entries_iff _).mpr hid))
  rw [List.map_eq_nil_iff, List.filter_eq_nil_iff] at hentry
  exact hentry dep hdep (decide_eq_true hmissing)

theorem mem_preconditionEdges_iff {known : String → Bool} {ids : List String}
    {preconditions : OrderedMap String (List String)} {dep id : String} :
    (dep, id) ∈ preconditionEdges order known ids preconditions ↔
      known id = true ∧ dep ∈ ids ∧ ∃ deps, preconditions.find? id = some deps ∧ dep ∈ deps := by
  rw [preconditionEdges, List.mem_flatMap]
  constructor
  · rintro ⟨⟨id', deps⟩, hentry, hmem⟩
    rw [List.mem_filter, (order.perm _).mem_iff, OrderedMap.mem_entries_iff] at hentry
    obtain ⟨dep', hdep, heq⟩ := List.mem_map.mp hmem
    cases heq
    rw [List.mem_filter, decide_eq_true_eq] at hdep
    exact ⟨hentry.2, hdep.2, deps, hentry.1, hdep.1⟩
  · rintro ⟨hknown, hids, deps, hfind, hdep⟩
    refine ⟨(id, deps), ?_, List.mem_map.mpr ⟨dep, ?_, rfl⟩⟩
    · rw [List.mem_filter, (order.perm _).mem_iff, OrderedMap.mem_entries_iff]
      exact ⟨hfind, hknown⟩
    · exact List.mem_filter.mpr ⟨hdep, decide_eq_true hids⟩

section Tables

variable {edges : List (String × String)} {ids : List String}

theorem dependents_preconditionTables :
    (fun node => ((preconditionTables edges ids).2.find? node).getD []) = dependentsOf edges := by
  funext node
  rw [preconditionTables, addEdge_eq_tallyEdge, getD_find?_tallied]
  rfl

theorem degree_preconditionTables (v : String) (degree : ℕ)
    (hv : (preconditionTables edges ids).1.find? v = some degree) :
    degree = (edges.map Prod.snd).count v := by
  have hdegree := getD_find?_tallyEdges edges
    (ids.foldl (fun in_degree id => in_degree.insert id 0) .empty, .empty) v
  rw [preconditionTables, addEdge_eq_tallyEdge] at hv
  rw [hv, find?_insertEach] at hdegree
  split at hdegree
  · simpa using hdegree
  · simpa using hdegree

theorem mem_keys_preconditionTables {v : String} :
    v ∈ (preconditionTables edges ids).1.keys ↔ v ∈ ids ∨ v ∈ edges.map Prod.snd := by
  rw [OrderedMap.mem_keys_iff, preconditionTables, addEdge_eq_tallyEdge,
    isSome_find?_tallyEdges, find?_insertEach]
  by_cases hv : v ∈ ids
  · simp [hv]
  · simp [hv]

theorem schedule_preconditionTables (edges : List (String × String)) (ids : List String)
    (hsources : ∀ e ∈ edges, e.1 ∈ ids) :
    Schedule edges (preconditionTables edges ids).1.keys
      (kahn (fun node => ((preconditionTables edges ids).2.find? node).getD [])
        (preconditionTables edges ids).1) := by
  rw [dependents_preconditionTables]
  exact (schedule_kahn degree_preconditionTables fun e he =>
    mem_keys_preconditionTables.mpr (.inl (hsources e he))).1

theorem mem_sorted_preconditionTables (hsources : ∀ e ∈ edges, e.1 ∈ ids)
    (hacyclic : Acyclic edges) {v : String} (hv : v ∈ (preconditionTables edges ids).1.keys) :
    v ∈ kahn (fun node => ((preconditionTables edges ids).2.find? node).getD [])
      (preconditionTables edges ids).1 := by
  rw [dependents_preconditionTables]
  exact mem_kahn_of_acyclic degree_preconditionTables (fun e he =>
    mem_keys_preconditionTables.mpr (.inl (hsources e he))) hacyclic hv

end Tables

/-- A sort that succeeds gives an execution order. -/
theorem executionOrder_of_topological_sort {bwp : BlueprintWithPreconditions}
    {sorted : List String} (h : bwp.topological_sort order = .ok sorted) :
    ExecutionOrder bwp sorted := by
  obtain ⟨bp, preconditions⟩ := bwp
  simp only [BlueprintWithPreconditions.topological_sort, topological_sort_with_preconditions,
    sortProcedures] at h
  split at h
  · cases h
  · rename_i hmissing
    split at h
    · cases h
    · rename_i hlength
      rw [not_not] at hlength
      have hschedule := schedule_preconditionTables
        (preconditionEdges order (fun proc_id => proc_id ∈ bp.procedures.map (·.id))
          (bp.procedures.map (·.id)) preconditions) (bp.procedures.map (·.id))
        fun e he => (mem_preconditionEdges_iff.mp he).2.1
      rw [Except.ok.inj h] at hschedule hlength
      have hsubset : sorted ⊆ bp.procedures.map (·.id) := by
        intro v hv
        rcases mem_keys_preconditionTables.mp (hschedule.subset hv) with hmem | hmem
        · exact hmem
        · obtain ⟨e, he, rfl⟩ := List.mem_map.mp hmem
          exact of_decide_eq_true (mem_preconditionEdges_iff.mp he).1
      have hperm : sorted.Perm (bp.procedures.map (·.id)) :=
        (List.subperm_of_subset hschedule.nodup hsubset).perm_of_length_le hlength.ge
      refine ⟨hschedule.nodup, hperm, ?_⟩
      intro pre id post heq deps hdeps dep hdep
      refine hschedule.precedes pre id post heq dep (mem_preconditionEdges_iff.mpr ⟨?_, ?_, ?_⟩)
      · refine decide_eq_true (hperm.mem_iff.mp ?_)
        rw [heq]
        exact List.mem_append_right _ List.mem_cons_self
      · exact mem_of_missingPreconditions_eq_nil hmissing hdeps hdep
      · exact ⟨deps, hdeps, hdep⟩

theorem exists_topological_sort_of_validate {bwp : BlueprintWithPreconditions}
    (h : bwp.validate order = .ok ()) : ∃ sorted, bwp.topological_sort order = .ok sorted := by
  rw [BlueprintWithPreconditions.validate, validate_blueprint_with_preconditions,
    bind_eq_ok_iff] at h
  obtain ⟨sorted, hsorted, -⟩ := h
  exact ⟨sorted, hsorted⟩

end Datasynth.Audit.ProcedureOrder
