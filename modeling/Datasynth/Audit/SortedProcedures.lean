import Datasynth.Audit.BuiltinPreconditions

/-!
What the sort of the procedures decides: when there is an order, that the order is the same
however the map of preconditions is iterated, and which procedures are named when there is none.
-/

namespace Datasynth.Audit.SortedProcedures

open Datasynth.Audit.BuiltinPreconditions
open Datasynth.Audit.Loader
open Datasynth.Audit.LoadedBlueprints
open Datasynth.Audit.ProcedureOrder
open Datasynth.Audit.Schema
open Datasynth.Lib.HashIteration
open Datasynth.Lib.SortedEntries
open Datasynth.Lib.TopologicalOrder

/-- The procedure is on a cycle of preconditions, or waits for one. -/
def BehindCycle (preconditions : OrderedMap String (List String)) (id : String) : Prop :=
  ∃ c, Relation.TransGen (Requires preconditions) c c ∧
    Relation.ReflTransGen (Requires preconditions) c id

section Edges

variable {order : HashOrder} {ids : List String} {preconditions : OrderedMap String (List String)}

/-- Between procedures the edges are the preconditions. -/
theorem afterCycle_edges_iff (hdeclared : Declared ids preconditions) {id : String}
    (hid : id ∈ ids) :
    AfterCycle (preconditionEdges order (fun id => id ∈ ids) ids preconditions) id ↔
      BehindCycle preconditions id := by
  have hedge : ∀ dep id, (dep, id) ∈ preconditionEdges order (fun id => id ∈ ids) ids
      preconditions → Requires preconditions dep id := fun _ _ h => (mem_edges_iff.mp h).2.2
  constructor
  · rintro ⟨c, hcycle, hpath⟩
    exact ⟨c, Relation.TransGen.mono hedge _ _ hcycle, Relation.ReflTransGen.mono hedge _ _ hpath⟩
  · rintro ⟨c, hcycle, hpath⟩
    obtain ⟨next, hnext, -⟩ := Relation.TransGen.head'_iff.mp hcycle
    refine ⟨c, transGen_edges_of_requires hdeclared hcycle (hdeclared _ _ hnext), ?_⟩
    rcases Relation.reflTransGen_iff_eq_or_transGen.mp hpath with rfl | hpath
    · exact .refl
    · exact (transGen_edges_of_requires hdeclared hpath hid).to_reflTransGen

variable (order) in
theorem perm_preconditionEdges (order' : HashOrder) (known : String → Bool) :
    (preconditionEdges order known ids preconditions).Perm
      (preconditionEdges order' known ids preconditions) := by
  apply List.Perm.flatMap_right
  apply List.Perm.filter
  exact (order.perm _).trans (order'.perm _).symm

end Edges

section Tables

variable {edges edges' : List (String × String)}

theorem degrees_preconditionTables_congr (h : edges.Perm edges') (ids : List String) :
    (preconditionTables edges ids).1 = (preconditionTables edges' ids).1 := by
  apply OrderedMap.ext_find?
  intro v
  have hdegree := getD_find?_tallyEdges edges
    (ids.foldl (fun in_degree id => in_degree.insert id 0) .empty, .empty) v
  have hsome := isSome_find?_tallyEdges edges
    (ids.foldl (fun in_degree id => in_degree.insert id 0) .empty, .empty) v
  rw [(h.map Prod.snd).count_eq, ← getD_find?_tallyEdges edges'] at hdegree
  rw [(h.map Prod.snd).mem_iff, ← isSome_find?_tallyEdges edges'] at hsome
  rw [preconditionTables, preconditionTables, addEdge_eq_tallyEdge]
  revert hdegree hsome
  generalize (edges.foldl tallyEdge _).1.find? v = entry
  generalize (edges'.foldl tallyEdge _).1.find? v = entry'
  cases entry <;> cases entry' <;> simp

theorem dependentsOf_perm (h : edges.Perm edges') (node : String) :
    (dependentsOf edges node).Perm (dependentsOf edges' node) :=
  (h.filter _).map _

/-- The order in which the edges are counted is lost. -/
theorem kahn_preconditionTables_congr (h : edges.Perm edges') (ids : List String) :
    kahn (fun node => ((preconditionTables edges ids).2.find? node).getD [])
        (preconditionTables edges ids).1 =
      kahn (fun node => ((preconditionTables edges' ids).2.find? node).getD [])
        (preconditionTables edges' ids).1 := by
  rw [degrees_preconditionTables_congr h, dependents_preconditionTables,
    dependents_preconditionTables, kahn_congr (dependentsOf_perm h)]

end Tables

section Sorting

variable {bwp : BlueprintWithPreconditions} {order : HashOrder} {sorted procedures : List String}

/-- The sorted procedures of a blueprint, all of them or not. -/
def sortedOf (order : HashOrder) (bwp : BlueprintWithPreconditions) : List String :=
  let ids := bwp.blueprint.procedures.map (·.id)
  let tables := preconditionTables
    (preconditionEdges order (fun proc_id => proc_id ∈ ids) ids bwp.preconditions) ids
  kahn (fun node => (tables.2.find? node).getD []) tables.1

theorem sortedOf_congr (order order' : HashOrder) : sortedOf order bwp = sortedOf order' bwp :=
  kahn_preconditionTables_congr (perm_preconditionEdges order order' _) _

theorem topological_sort_eq (order : HashOrder)
    (hdeclared : Declared (bwp.blueprint.procedures.map (·.id)) bwp.preconditions) :
    bwp.topological_sort order =
      if (sortedOf order bwp).length ≠ (bwp.blueprint.procedures.map (·.id)).length then
        .error (.dagCycle
          ((bwp.blueprint.procedures.map (·.id)).filter fun id => id ∉ sortedOf order bwp))
      else .ok (sortedOf order bwp) := by
  rw [BlueprintWithPreconditions.topological_sort, topological_sort_with_preconditions,
    sortProcedures, (missingPreconditions_eq_nil_iff order).mpr hdeclared]
  rfl

theorem exists_topological_sort_iff (order : HashOrder)
    (hnodup : (bwp.blueprint.procedures.map (·.id)).Nodup) :
    (∃ sorted, bwp.topological_sort order = .ok sorted) ↔
      Declared (bwp.blueprint.procedures.map (·.id)) bwp.preconditions ∧
        AcyclicPreconditions bwp.preconditions := by
  have hisOk : (topological_sort_with_preconditions order bwp.blueprint
      bwp.preconditions).isOk = true ↔ _ :=
    isOk_topological_sort_with_preconditions_iff order bwp.blueprint
  rw [WellOrdered, and_iff_right hnodup] at hisOk
  rw [← hisOk, BlueprintWithPreconditions.topological_sort]
  cases topological_sort_with_preconditions order bwp.blueprint bwp.preconditions <;>
    simp [Except.isOk, Except.toBool]

theorem declared_of_topological_sort
    (h : bwp.topological_sort order = .ok sorted ∨
      bwp.topological_sort order = .error (.dagCycle procedures)) :
    Declared (bwp.blueprint.procedures.map (·.id)) bwp.preconditions := by
  rw [← missingPreconditions_eq_nil_iff order]
  rw [BlueprintWithPreconditions.topological_sort, topological_sort_with_preconditions,
    sortProcedures] at h
  cases hmissing : missingPreconditions order bwp.blueprint bwp.preconditions with
  | nil => rfl
  | cons violation rest => simp [hmissing] at h

theorem topological_sort_congr (h : bwp.topological_sort order = .ok sorted) (order' : HashOrder) :
    bwp.topological_sort order' = .ok sorted := by
  have hor : bwp.topological_sort order = .ok sorted ∨
      bwp.topological_sort order = .error (.dagCycle []) := .inl h
  have hdeclared := declared_of_topological_sort hor
  rw [topological_sort_eq order hdeclared] at h
  rw [topological_sort_eq order' hdeclared, sortedOf_congr order' order, h]

theorem mem_sortedOf_iff
    (hdeclared : Declared (bwp.blueprint.procedures.map (·.id)) bwp.preconditions) {id : String}
    (hid : id ∈ bwp.blueprint.procedures.map (·.id)) :
    id ∈ sortedOf order bwp ↔ ¬ BehindCycle bwp.preconditions id := by
  have hafter : AfterCycle (preconditionEdges order
      (fun id => id ∈ bwp.blueprint.procedures.map (·.id))
      (bwp.blueprint.procedures.map (·.id)) bwp.preconditions) id ↔ _ :=
    afterCycle_edges_iff hdeclared hid
  rw [← hafter]
  have hsources : ∀ e ∈ preconditionEdges order (fun id => id ∈ bwp.blueprint.procedures.map (·.id))
      (bwp.blueprint.procedures.map (·.id)) bwp.preconditions,
      e.1 ∈ bwp.blueprint.procedures.map (·.id) := fun e he => (mem_edges_iff.mp he).2.1
  constructor
  · intro hsorted hcycle
    exact (schedule_preconditionTables _ _ hsources).notMem_of_afterCycle hcycle hsorted
  · intro hfree
    rw [sortedOf, dependents_preconditionTables]
    exact mem_kahn_of_not_afterCycle degree_preconditionTables
      (fun e he => mem_keys_preconditionTables.mpr (.inl (hsources e he)))
      (mem_keys_preconditionTables.mpr (.inl hid)) hfree

/-- A failed sort names what is on a cycle, or waits for one. -/
theorem dagCycle_procedures (hnodup : (bwp.blueprint.procedures.map (·.id)).Nodup)
    (h : bwp.topological_sort order = .error (.dagCycle procedures)) :
    procedures ≠ [] ∧ ∀ id, id ∈ procedures ↔
      id ∈ bwp.blueprint.procedures.map (·.id) ∧ BehindCycle bwp.preconditions id := by
  have hor : bwp.topological_sort order = .ok [] ∨
      bwp.topological_sort order = .error (.dagCycle procedures) := .inr h
  have hdeclared := declared_of_topological_sort hor
  have hmem : ∀ id, id ∈ procedures ↔
      id ∈ bwp.blueprint.procedures.map (·.id) ∧ BehindCycle bwp.preconditions id := by
    intro id
    rw [topological_sort_eq order hdeclared] at h
    split at h
    · injection h with h
      injection h with h
      rw [← h, List.mem_filter, decide_eq_true_eq]
      apply and_congr_right
      intro hid
      rw [mem_sortedOf_iff hdeclared hid, not_not]
    · cases h
  refine ⟨?_, hmem⟩
  rintro rfl
  -- Without a procedure behind a cycle the sort succeeds.
  have hacyclic : AcyclicPreconditions bwp.preconditions := by
    intro id hcycle
    obtain ⟨next, hnext, -⟩ := Relation.TransGen.head'_iff.mp hcycle
    exact List.not_mem_nil ((hmem id).mpr ⟨hdeclared _ _ hnext, id, hcycle, .refl⟩)
  obtain ⟨sorted, hsorted⟩ := (exists_topological_sort_iff order hnodup).mpr ⟨hdeclared, hacyclic⟩
  rw [hsorted] at h
  cases h

/-- What a caller may rely on. -/
structure Sorts (bwp : BlueprintWithPreconditions) : Prop where
  succeeds_iff : ∀ order, (∃ sorted, bwp.topological_sort order = .ok sorted) ↔
    Declared (bwp.blueprint.procedures.map (·.id)) bwp.preconditions ∧
      AcyclicPreconditions bwp.preconditions
  ordered : ∀ order sorted, bwp.topological_sort order = .ok sorted → ExecutionOrder bwp sorted
  order_free : ∀ order sorted, bwp.topological_sort order = .ok sorted →
    ∀ order', bwp.topological_sort order' = .ok sorted
  cycle : ∀ order procedures, bwp.topological_sort order = .error (.dagCycle procedures) →
    procedures ≠ [] ∧ ∀ id, id ∈ procedures ↔
      id ∈ bwp.blueprint.procedures.map (·.id) ∧ BehindCycle bwp.preconditions id

theorem sorts_of_nodup (bwp : BlueprintWithPreconditions)
    (hnodup : (bwp.blueprint.procedures.map (·.id)).Nodup) : Sorts bwp where
  succeeds_iff order := exists_topological_sort_iff order hnodup
  ordered _ _ h := executionOrder_of_topological_sort h
  order_free _ _ h := topological_sort_congr h
  cycle _ _ h := dagCycle_procedures hnodup h

theorem generic_blueprint_sorts : Sorts (load_from_file genericFsa) :=
  sorts_of_nodup _ (by decide)

end Sorting

/-- A blueprint whose one procedure waits for a procedure that the blueprint does not have. -/
def danglingFsa : RawBlueprint :=
  { genericFsa with
    procedures := [fsaProcedure ("risk_identification", "planning", ["accept_engagement"])] }

/-- Preconditions without a cycle are not sorted when one of them is no procedure. -/
theorem unknown_precondition_is_rejected :
    AcyclicPreconditions (load_from_file danglingFsa).preconditions ∧
      ¬ ∃ sorted, (load_from_file danglingFsa).topological_sort .insertion = .ok sorted := by
  have hrequires : ∀ dep id, Requires (load_from_file danglingFsa).preconditions dep id →
      dep = "accept_engagement" ∧ id = "risk_identification" := by
    rintro dep id ⟨deps, hfind, hdep⟩
    have hentry := (OrderedMap.mem_entries_iff _).mpr hfind
    have hentries : (load_from_file danglingFsa).preconditions.entries =
        [("risk_identification", ["accept_engagement"])] := by decide
    rw [hentries, List.mem_singleton, Prod.mk.injEq] at hentry
    rw [hentry.2, List.mem_singleton] at hdep
    exact ⟨hdep, hentry.1⟩
  constructor
  · intro id hcycle
    obtain ⟨_, hfirst, -⟩ := Relation.TransGen.head'_iff.mp hcycle
    obtain ⟨_, -, hlast⟩ := Relation.TransGen.tail'_iff.mp hcycle
    have hsame := (hrequires _ _ hfirst).1.symm.trans (hrequires _ _ hlast).2
    exact absurd hsame (by decide)
  · rw [exists_topological_sort_iff _ (by decide)]
    rintro ⟨hdeclared, -⟩
    have hdep := hdeclared "accept_engagement" "risk_identification"
      ⟨["accept_engagement"], by decide, by decide⟩
    exact absurd hdep (by decide)

end Datasynth.Audit.SortedProcedures
