import Datasynth.Lib.TopologicalOrder
import Mathlib.Algebra.Order.Field.Basic
import Mathlib.Algebra.Order.Field.Rat
import Mathlib.Data.String.Basic

/-!
The graph of a structural causal model: typed variables and the mechanisms by which they
act on one another, its validation and the order in which its variables are computed.
-/

namespace Datasynth.Core.CausalGraphs

open Datasynth.Lib.SortedEntries
open Datasynth.Lib.TopologicalOrder

universe u

variable {K : Type u}

inductive CausalVarType where
  | continuous
  | categorical
  | count
  | binary
deriving DecidableEq, Repr

structure CausalVariable (K : Type u) where
  name : String
  var_type : CausalVarType
  distribution : Option String
  params : OrderedMap String K

inductive CausalMechanism (K : Type u) where
  | linear (coefficient : K)
  | threshold (cutoff : K)
  | polynomial (coefficients : List K)
  | logistic (scale midpoint : K)

structure CausalEdge (K : Type u) where
  from_var : String
  to_var : String
  mechanism : CausalMechanism K
  strength : K

structure CausalGraph (K : Type u) where
  vars : List (CausalVariable K)
  edges : List (CausalEdge K)

/-- A sum from the left, as an iterator adds. -/
def sumOf [Zero K] [Add K] (terms : List K) : K := terms.foldl (· + ·) 0

/-- The contribution of a parent's value; `exp` is the exponential function. -/
def CausalMechanism.apply [Field K] [LinearOrder K] (exp : K → K) (mechanism : CausalMechanism K)
    (parent_value : K) : K :=
  match mechanism with
  | .linear coefficient => coefficient * parent_value
  | .threshold cutoff => if cutoff < parent_value then 1 else 0
  | .polynomial coefficients =>
      sumOf (coefficients.zipIdx.map fun c => c.1 * parent_value ^ c.2)
  | .logistic scale midpoint => 1 / (1 + exp (-scale * (parent_value - midpoint)))

namespace CausalGraph

variable (graph : CausalGraph K)

def variable_names : List String := graph.vars.map (·.name)

def get_variable (name : String) : Option (CausalVariable K) :=
  graph.vars.find? fun v => v.name = name

def parent_edges (name : String) : List (CausalEdge K) :=
  graph.edges.filter fun e => e.to_var = name

/-- Of variables with one name the last one counts. -/
def name_to_idx : OrderedMap String ℕ := .ofList graph.variable_names.zipIdx

/-- The edges between known variables, by index. -/
def indexEdges : List (ℕ × ℕ) :=
  graph.edges.filterMap fun e =>
    (graph.name_to_idx.find? e.from_var).bind fun from_idx =>
      (graph.name_to_idx.find? e.to_var).map fun to_idx => (from_idx, to_idx)

/-- `in_degree` and `adj`. -/
def tables : OrderedMap ℕ ℕ × OrderedMap ℕ (List ℕ) :=
  talliedFrom (List.range graph.vars.length) graph.indexEdges

def sortedIndices : List ℕ :=
  sortTallied id
    ((List.range graph.vars.length).filter fun i => graph.tables.1.find? i = some 0)
    graph.tables

def topological_order : Except String (List String) :=
  let order := graph.sortedIndices.map fun node => graph.variable_names.getD node ""
  if order.length ≠ graph.vars.length then .error "Causal graph contains a cycle"
  else .ok order

def selfLoop : Option String :=
  (graph.edges.find? fun e => e.from_var = e.to_var).map (·.from_var)

def unknownVariable : Option String :=
  graph.edges.findSome? fun e =>
    if e.from_var ∉ graph.variable_names then some e.from_var
    else if e.to_var ∉ graph.variable_names then some e.to_var
    else none

def validate : Except String Unit :=
  match graph.selfLoop with
  | some name => .error ("Self-loop detected on variable '" ++ name ++ "'")
  | none =>
      match graph.unknownVariable with
      | some name => .error ("Edge references unknown variable '" ++ name ++ "'")
      | none => graph.topological_order.map fun _ => ()

end CausalGraph

namespace CausalGraph

variable {graph : CausalGraph K}

/-- The edges between known variables, by name. -/
def ends (graph : CausalGraph K) : List (String × String) :=
  (graph.edges.filter fun e =>
    e.from_var ∈ graph.variable_names ∧ e.to_var ∈ graph.variable_names).map
      fun e => (e.from_var, e.to_var)

theorem mem_ends_iff {u v : String} : (u, v) ∈ graph.ends ↔ u ∈ graph.variable_names ∧
    v ∈ graph.variable_names ∧ ∃ e ∈ graph.edges, e.from_var = u ∧ e.to_var = v := by
  rw [ends, List.mem_map]
  constructor
  · rintro ⟨e, he, heq⟩
    obtain ⟨rfl, rfl⟩ := Prod.mk.inj heq
    rw [List.mem_filter, decide_eq_true_eq] at he
    exact ⟨he.2.1, he.2.2, e, he.1, rfl, rfl⟩
  · rintro ⟨hu, hv, e, he, rfl, rfl⟩
    exact ⟨e, List.mem_filter.mpr ⟨he, decide_eq_true ⟨hu, hv⟩⟩, rfl⟩

theorem length_variable_names : graph.variable_names.length = graph.vars.length :=
  List.length_map _

/-- An index that is found is one of the name. -/
theorem getElem?_of_name_to_idx {name : String} {i : ℕ}
    (h : graph.name_to_idx.find? name = some i) : graph.variable_names[i]? = some name :=
  List.mk_mem_zipIdx_iff_getElem?.mp (OrderedMap.mem_of_find?_ofList h)

theorem getD_of_name_to_idx {name : String} {i : ℕ} (h : graph.name_to_idx.find? name = some i) :
    graph.variable_names.getD i "" = name := by
  rw [List.getD_eq_getElem?_getD, getElem?_of_name_to_idx h]
  rfl

theorem isSome_name_to_idx {name : String} (h : name ∈ graph.variable_names) :
    ∃ i, graph.name_to_idx.find? name = some i := by
  obtain ⟨i, hi⟩ := List.mem_iff_getElem?.mp h
  have hmem := List.mk_mem_zipIdx_iff_getElem?.mpr hi
  rw [← Option.isSome_iff_exists, name_to_idx, OrderedMap.find?_ofList, Option.isSome_map,
    List.find?_isSome]
  exact ⟨(name, i), List.mem_reverse.mpr hmem, decide_eq_true rfl⟩

theorem lt_of_name_to_idx {name : String} {i : ℕ} (h : graph.name_to_idx.find? name = some i) :
    i < graph.vars.length := by
  rw [← length_variable_names]
  exact (List.getElem?_eq_some_iff.mp (getElem?_of_name_to_idx h)).1

theorem mem_names_of_name_to_idx {name : String} {i : ℕ}
    (h : graph.name_to_idx.find? name = some i) : name ∈ graph.variable_names :=
  List.mem_of_getElem? (getElem?_of_name_to_idx h)

theorem mem_indexEdges_iff {i j : ℕ} : (i, j) ∈ graph.indexEdges ↔
    ∃ u v, (u, v) ∈ graph.ends ∧ graph.name_to_idx.find? u = some i ∧
      graph.name_to_idx.find? v = some j := by
  rw [indexEdges, List.mem_filterMap]
  constructor
  · rintro ⟨e, he, heq⟩
    obtain ⟨i', hi', hmap⟩ := Option.bind_eq_some_iff.mp heq
    obtain ⟨j', hj', heq⟩ := Option.map_eq_some_iff.mp hmap
    obtain ⟨rfl, rfl⟩ := Prod.mk.inj heq
    exact ⟨e.from_var, e.to_var, mem_ends_iff.mpr ⟨mem_names_of_name_to_idx hi',
      mem_names_of_name_to_idx hj', e, he, rfl, rfl⟩, hi', hj'⟩
  · rintro ⟨u, v, hends, hi, hj⟩
    obtain ⟨-, -, e, he, rfl, rfl⟩ := mem_ends_iff.mp hends
    refine ⟨e, he, ?_⟩
    rw [hi, Option.bind_some, hj]
    rfl

variable (graph) in
theorem indexEdges_known : ∀ e ∈ graph.indexEdges,
    e.1 ∈ List.range graph.vars.length ∧ e.2 ∈ List.range graph.vars.length := by
  intro e he
  obtain ⟨u, v, -, hu, hv⟩ := mem_indexEdges_iff.mp he
  exact ⟨List.mem_range.mpr (lt_of_name_to_idx hu), List.mem_range.mpr (lt_of_name_to_idx hv)⟩

/-- A cycle of names is a cycle of indices, and the other way round. -/
theorem acyclic_indexEdges_iff : Acyclic graph.indexEdges ↔ Acyclic graph.ends := by
  constructor
  · intro hacyclic v hcycle
    apply hacyclic ((graph.name_to_idx.find? v).getD 0)
    refine Relation.TransGen.lift (fun w => (graph.name_to_idx.find? w).getD 0) ?_ _ _ hcycle
    intro a b hab
    obtain ⟨ha, hb, -⟩ := mem_ends_iff.mp hab
    obtain ⟨i, hi⟩ := isSome_name_to_idx ha
    obtain ⟨j, hj⟩ := isSome_name_to_idx hb
    show ((graph.name_to_idx.find? a).getD 0, (graph.name_to_idx.find? b).getD 0) ∈ _
    rw [hi, hj]
    exact mem_indexEdges_iff.mpr ⟨a, b, hab, hi, hj⟩
  · intro hacyclic i hcycle
    apply hacyclic (graph.variable_names.getD i "")
    refine Relation.TransGen.lift (fun w => graph.variable_names.getD w "") ?_ _ _ hcycle
    intro a b hab
    obtain ⟨u, v, hends, ha, hb⟩ := mem_indexEdges_iff.mp hab
    show (graph.variable_names.getD a "", graph.variable_names.getD b "") ∈ graph.ends
    rwa [getD_of_name_to_idx ha, getD_of_name_to_idx hb]

theorem perm_initialNodes :
    ((List.range graph.vars.length).filter fun i => graph.tables.1.find? i = some 0).Perm
      (initialNodes graph.tables.1) := by
  have hnodup : (initialNodes graph.tables.1).Nodup :=
    graph.tables.1.keys_nodup.sublist (List.filter_sublist.map Prod.fst)
  rw [List.perm_ext_iff_of_nodup (List.nodup_range.filter _) hnodup]
  intro i
  rw [List.mem_filter, decide_eq_true_eq, initialNodes, List.mem_map]
  constructor
  · rintro ⟨-, hi⟩
    exact ⟨(i, 0), List.mem_filter.mpr ⟨(OrderedMap.mem_entries_iff _).mpr hi, rfl⟩, rfl⟩
  · rintro ⟨⟨i', degree⟩, hmem, rfl⟩
    rw [List.mem_filter, OrderedMap.mem_entries_iff, decide_eq_true_eq] at hmem
    obtain ⟨hfind, rfl⟩ := hmem
    refine ⟨(mem_keys_talliedFrom (indexEdges_known graph)).mp ?_, hfind⟩
    rw [OrderedMap.mem_keys_iff]
    exact Option.isSome_iff_exists.mpr ⟨0, hfind⟩

variable (graph) in
theorem schedule_sortedIndices :
    Schedule graph.indexEdges (List.range graph.vars.length) graph.sortedIndices :=
  schedule_sortTallied (indexEdges_known graph) (fun l => List.Perm.refl l) perm_initialNodes

theorem length_sortedIndices_iff :
    graph.sortedIndices.length = graph.vars.length ↔ Acyclic graph.ends := by
  have hlength := length_sortTallied_iff List.nodup_range (indexEdges_known graph)
    (fun l => List.Perm.refl l) perm_initialNodes
  rw [List.length_range, acyclic_indexEdges_iff] at hlength
  exact hlength

theorem topological_order_eq_ok_iff {order : List String} : graph.topological_order = .ok order ↔
    Acyclic graph.ends ∧
      order = graph.sortedIndices.map fun node => graph.variable_names.getD node "" := by
  rw [topological_order, ← length_sortedIndices_iff]
  simp only [List.length_map]
  split
  · rename_i hlength
    simp [hlength]
  · rename_i hlength
    rw [not_not] at hlength
    simp [hlength, eq_comm]

theorem perm_of_topological_order {order : List String}
    (h : graph.topological_order = .ok order) : order.Perm graph.variable_names := by
  obtain ⟨hacyclic, rfl⟩ := topological_order_eq_ok_iff.mp h
  have hschedule := schedule_sortedIndices graph
  have hperm := (List.subperm_of_subset hschedule.nodup hschedule.subset).perm_of_length_le (by
    rw [List.length_range, length_sortedIndices_iff.mpr hacyclic])
  have hnames : (List.range graph.vars.length).map
      (fun node => graph.variable_names.getD node "") = graph.variable_names := by
    apply List.ext_getElem?
    intro i
    rw [List.getElem?_map]
    rcases lt_or_ge i graph.vars.length with hlt | hge
    · have hlt' : i < graph.variable_names.length := by rwa [length_variable_names]
      rw [List.getElem?_range hlt, Option.map_some, List.getD_eq_getElem?_getD,
        List.getElem?_eq_getElem hlt', Option.getD_some]
    · rw [List.getElem?_eq_none (by rwa [List.length_range]), Option.map_none,
        List.getElem?_eq_none (by rwa [length_variable_names])]
  exact (hperm.map _).trans (List.Perm.of_eq hnames)

/-- With distinct names the order lists each variable after its parents. -/
theorem schedule_of_topological_order {order : List String}
    (h : graph.topological_order = .ok order) (hnodup : graph.variable_names.Nodup) :
    Schedule graph.ends graph.variable_names order := by
  have hperm := perm_of_topological_order h
  obtain ⟨-, rfl⟩ := topological_order_eq_ok_iff.mp h
  refine ⟨hperm.nodup_iff.mpr hnodup, hperm.subset, ?_⟩
  intro pre v post heq u hu
  obtain ⟨pre', rest, hsplit, rfl, hrest⟩ := List.map_eq_append_iff.mp heq
  obtain ⟨j, post', rfl, hj, rfl⟩ := List.map_eq_cons_iff.mp hrest
  obtain ⟨hu', hv', -⟩ := mem_ends_iff.mp hu
  obtain ⟨i', hi'⟩ := isSome_name_to_idx hu'
  obtain ⟨j', hj'⟩ := isSome_name_to_idx hv'
  have hlt : j < graph.variable_names.length := by
    rw [length_variable_names, ← List.mem_range]
    apply (schedule_sortedIndices graph).subset
    rw [hsplit]
    exact List.mem_append_right _ List.mem_cons_self
  -- The only index of the name is the one that counts.
  have hsame : j' = j := by
    obtain ⟨hlt', hget'⟩ := List.getElem?_eq_some_iff.mp (getElem?_of_name_to_idx hj')
    rw [List.getD_eq_getElem?_getD, List.getElem?_eq_getElem hlt, Option.getD_some] at hj
    exact (hnodup.getElem_inj_iff).mp (hget'.trans hj.symm)
  have hpre := (schedule_sortedIndices graph).precedes pre' j post' hsplit i'
    (mem_indexEdges_iff.mpr ⟨u, v, hu, hi', hsame ▸ hj'⟩)
  refine List.mem_map.mpr ⟨i', hpre, ?_⟩
  exact getD_of_name_to_idx hi'

theorem unknownVariable_eq_none_iff : graph.unknownVariable = none ↔
    ∀ e ∈ graph.edges, e.from_var ∈ graph.variable_names ∧ e.to_var ∈ graph.variable_names := by
  rw [unknownVariable, List.findSome?_eq_none_iff]
  apply forall₂_congr
  intro e _
  split
  · rename_i hfrom
    simp [hfrom]
  · split
    · rename_i hto
      simp [hto]
    · rename_i hfrom hto
      rw [not_not] at hfrom hto
      simp [hfrom, hto]

theorem topological_order_map_eq_ok_iff :
    (graph.topological_order.map fun _ => ()) = .ok () ↔ Acyclic graph.ends := by
  cases h : graph.topological_order with
  | ok order => simp [Except.map, (topological_order_eq_ok_iff.mp h).1]
  | error message =>
      refine ⟨fun hmap => (by cases hmap), fun hacyclic => ?_⟩
      rw [topological_order_eq_ok_iff.mpr ⟨hacyclic, rfl⟩] at h
      cases h

theorem validate_eq_ok_iff : graph.validate = .ok () ↔
    (∀ e ∈ graph.edges, e.from_var ∈ graph.variable_names ∧ e.to_var ∈ graph.variable_names) ∧
      Acyclic graph.ends := by
  rw [validate]
  split
  · rename_i name hloop
    refine ⟨fun h => (by cases h), fun h => ?_⟩
    obtain ⟨e, hfind, -⟩ := Option.map_eq_some_iff.mp hloop
    have he := List.mem_of_find?_eq_some hfind
    have hsame : e.from_var = e.to_var := by simpa using List.find?_some hfind
    have hends : (e.from_var, e.from_var) ∈ graph.ends :=
      mem_ends_iff.mpr ⟨(h.1 e he).1, (h.1 e he).1, e, he, rfl, hsame.symm⟩
    exact absurd (.single hends) (h.2 e.from_var)
  · split
    · rename_i name hunknown
      refine ⟨fun h => (by cases h), fun h => ?_⟩
      rw [unknownVariable_eq_none_iff.mpr h.1] at hunknown
      cases hunknown
    · rename_i hknown
      rw [topological_order_map_eq_ok_iff]
      exact ⟨fun h => ⟨unknownVariable_eq_none_iff.mp hknown, h⟩, fun h => h.2⟩

theorem ends_of_known (h : ∀ e ∈ graph.edges, e.from_var ∈ graph.variable_names ∧
    e.to_var ∈ graph.variable_names) :
    graph.ends = graph.edges.map fun e => (e.from_var, e.to_var) := by
  rw [ends, List.filter_eq_self.mpr]
  exact fun e he => decide_eq_true (h e he)

/-- Validation accepts exactly the graphs with known ends and without a cycle, also when several
variables share a name.  The order is one of all variables; it exists without a cycle, and with
distinct names it lists the source of every edge before its target. -/
theorem validate_and_order (graph : CausalGraph K) :
    (graph.validate = .ok () ↔
      (∀ e ∈ graph.edges, e.from_var ∈ graph.variable_names ∧ e.to_var ∈ graph.variable_names) ∧
        Acyclic (graph.edges.map fun e => (e.from_var, e.to_var))) ∧
      ((∃ order, graph.topological_order = .ok order) ↔ Acyclic graph.ends) ∧
      ∀ order, graph.topological_order = .ok order → order.Perm graph.variable_names ∧
        (graph.variable_names.Nodup → ∀ u v, (u, v) ∈ graph.ends →
          order.idxOf u < order.idxOf v) := by
  refine ⟨?_, ?_, fun order horder => ⟨perm_of_topological_order horder, ?_⟩⟩
  · rw [validate_eq_ok_iff]
    exact and_congr_right fun hknown => by rw [ends_of_known hknown]
  · constructor
    · rintro ⟨order, horder⟩
      exact (topological_order_eq_ok_iff.mp horder).1
    · exact fun hacyclic => ⟨_, topological_order_eq_ok_iff.mpr ⟨hacyclic, rfl⟩⟩
  · intro hnodup u v huv
    have hschedule := schedule_of_topological_order horder hnodup
    have hmem := (perm_of_topological_order horder).mem_iff.mpr (mem_ends_iff.mp huv).2.1
    exact (hschedule.idxOf_lt huv hmem).2

/-- The built-in graph for fraud detection. -/
def fraud_detection_template : CausalGraph ℚ where
  vars :=
    [⟨"transaction_amount", .continuous, some "lognormal", .ofList [("mu", 6), ("sigma", 3 / 2)]⟩,
      ⟨"merchant_risk", .continuous, some "beta", .ofList [("alpha", 2), ("beta_param", 5)]⟩,
      ⟨"transaction_frequency", .count, some "normal", .ofList [("mean", 10), ("std", 3)]⟩,
      ⟨"fraud_probability", .continuous, none, .empty⟩, ⟨"is_fraud", .binary, none, .empty⟩]
  edges :=
    [⟨"transaction_amount", "fraud_probability", .linear (3 / 10), 1⟩,
      ⟨"merchant_risk", "fraud_probability", .linear (1 / 2), 1⟩,
      ⟨"transaction_frequency", "fraud_probability", .linear (1 / 5), 1⟩,
      ⟨"fraud_probability", "is_fraud", .threshold (7 / 10), 1⟩]

theorem fraud_detection_template_valid : fraud_detection_template.validate = .ok () := by
  decide +kernel

theorem nodup_fraud_detection_template : fraud_detection_template.variable_names.Nodup := by
  decide

end CausalGraph

end Datasynth.Core.CausalGraphs
