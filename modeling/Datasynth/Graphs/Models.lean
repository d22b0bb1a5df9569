import Mathlib.Data.List.Sort
import Datasynth.Lib.CivilCalendar
import Datasynth.Lib.HashIteration
import Datasynth.Lib.SortedEntries

/-!
Graphs of nodes and edges under running ids.  A hash map is kept in key order; where
the source iterates over it, the entries are visited in the order of a `HashOrder`.
Weights and features are values of any type.
-/

namespace Datasynth.Graphs.Models

open Datasynth.Lib.CivilCalendar
open Datasynth.Lib.HashIteration
open Datasynth.Lib.SortedEntries

abbrev NodeId := ℕ

abbrev EdgeId := ℕ

inductive NodeType
  | account
  | journalEntry
  | vendor
  | customer
  | user
  | company
  | costCenter
  | profitCenter
  | material
  | fixedAsset
  | custom (name : String)
deriving DecidableEq

inductive EdgeType
  | transaction
  | approval
  | reportsTo
  | ownership
  | intercompany
  | documentReference
  | costAllocation
  | custom (name : String)
deriving DecidableEq

structure GraphNode (F : Type) where
  id : NodeId
  node_type : NodeType
  features : List F
  is_anomaly : Bool
deriving DecidableEq

structure GraphEdge (F : Type) where
  id : EdgeId
  source : NodeId
  target : NodeId
  edge_type : EdgeType
  weight : F
  features : List F
  is_anomaly : Bool
  timestamp : Option Date
deriving DecidableEq

section Edges

variable {F : Type}

def GraphNode.new (id : NodeId) (node_type : NodeType) : GraphNode F := ⟨id, node_type, [], false⟩

def GraphEdge.new [One F] (id : EdgeId) (source target : NodeId) (edge_type : EdgeType) :
    GraphEdge F :=
  ⟨id, source, target, edge_type, 1, [], false, none⟩

/-- The ends of an edge, the source first. -/
def GraphEdge.ends (edge : GraphEdge F) : NodeId × NodeId := (edge.source, edge.target)

end Edges

structure Graph (F : Type) where
  nodes : OrderedMap NodeId (GraphNode F)
  edges : OrderedMap EdgeId (GraphEdge F)
  adjacency : OrderedMap NodeId (List EdgeId)
  reverse_adjacency : OrderedMap NodeId (List EdgeId)
  nodes_by_type : List (NodeType × List NodeId)
  edges_by_type : List (EdgeType × List EdgeId)
  next_node_id : NodeId
  next_edge_id : EdgeId

/-- `entry(k).or_default().push(id)` on an index by type. -/
def pushByType {τ : Type} [DecidableEq τ] (t : τ) (id : ℕ) :
    List (τ × List ℕ) → List (τ × List ℕ)
  | [] => [(t, [id])]
  | (key, ids) :: rest =>
      if key = t then (key, ids ++ [id]) :: rest else (key, ids) :: pushByType t id rest

namespace Graph

variable {F : Type}

def new : Graph F where
  nodes := OrderedMap.empty
  edges := OrderedMap.empty
  adjacency := OrderedMap.empty
  reverse_adjacency := OrderedMap.empty
  nodes_by_type := []
  edges_by_type := []
  next_node_id := 1
  next_edge_id := 1

def add_node (g : Graph F) (node : GraphNode F) : Graph F :=
  { g with
    nodes := g.nodes.insert g.next_node_id { node with id := g.next_node_id }
    adjacency := g.adjacency.insert g.next_node_id []
    reverse_adjacency := g.reverse_adjacency.insert g.next_node_id []
    nodes_by_type := pushByType node.node_type g.next_node_id g.nodes_by_type
    next_node_id := g.next_node_id + 1 }

/-- The ends of the edge are not looked at. -/
def add_edge (g : Graph F) (edge : GraphEdge F) : Graph F :=
  { g with
    edges := g.edges.insert g.next_edge_id { edge with id := g.next_edge_id }
    adjacency := g.adjacency.upsert edge.source fun ids => ids.getD [] ++ [g.next_edge_id]
    reverse_adjacency :=
      g.reverse_adjacency.upsert edge.target fun ids => ids.getD [] ++ [g.next_edge_id]
    edges_by_type := pushByType edge.edge_type g.next_edge_id g.edges_by_type
    next_edge_id := g.next_edge_id + 1 }

def get_edge (g : Graph F) (id : EdgeId) : Option (GraphEdge F) := g.edges.find? id

def outgoing_edges (g : Graph F) (node_id : NodeId) : List (GraphEdge F) :=
  ((g.adjacency.find? node_id).map fun ids => ids.filterMap g.get_edge).getD []

def incoming_edges (g : Graph F) (node_id : NodeId) : List (GraphEdge F) :=
  ((g.reverse_adjacency.find? node_id).map fun ids => ids.filterMap g.get_edge).getD []

/-- The ids of a map in the order in which the source sorts them. -/
def sortedIds {V : Type} (order : HashOrder) (m : OrderedMap ℕ V) : List ℕ :=
  (order.iter m.keys).mergeSort

def edge_index (order : HashOrder) (g : Graph F) : List NodeId × List NodeId :=
  let edges := order.iter g.edges.values
  (edges.map (·.source), edges.map (·.target))

def node_features (order : HashOrder) (g : Graph F) : List (List F) :=
  ((sortedIds order g.nodes).filterMap g.nodes.find?).map (·.features)

def edge_features (order : HashOrder) (g : Graph F) : List (List F) :=
  ((sortedIds order g.edges).filterMap g.edges.find?).map (·.features)

def node_anomaly_mask (order : HashOrder) (g : Graph F) : List Bool :=
  ((sortedIds order g.nodes).filterMap g.nodes.find?).map (·.is_anomaly)

def edge_anomaly_mask (order : HashOrder) (g : Graph F) : List Bool :=
  ((sortedIds order g.edges).filterMap g.edges.find?).map (·.is_anomaly)

@[simp] theorem add_node_nodes (g : Graph F) (node : GraphNode F) :
    (g.add_node node).nodes = g.nodes.insert g.next_node_id { node with id := g.next_node_id } :=
  rfl

@[simp] theorem add_node_edges (g : Graph F) (node : GraphNode F) :
    (g.add_node node).edges = g.edges := rfl

@[simp] theorem add_edge_edges (g : Graph F) (edge : GraphEdge F) :
    (g.add_edge edge).edges = g.edges.insert g.next_edge_id { edge with id := g.next_edge_id } :=
  rfl

section Sorted

variable {V : Type} (order : HashOrder) (m : OrderedMap ℕ V)

theorem sortedIds_eq_keys : sortedIds order m = m.keys := by
  have hperm : (sortedIds order m).Perm m.keys :=
    (List.mergeSort_perm _ _).trans (order.perm _)
  have hids : (sortedIds order m).Pairwise (· ≤ ·) :=
    List.pairwise_mergeSort' (· ≤ ·) (order.iter m.keys)
  have hkeys : m.keys.Pairwise (· ≤ ·) :=
    List.pairwise_map.mpr (m.sorted.imp fun h => h.le)
  exact hperm.eq_of_pairwise' hids hkeys

theorem filterMap_find?_keys : m.keys.filterMap m.find? = m.values := by
  have hfind : ∀ e ∈ m.entries, m.find? e.1 = some e.2 := fun e he =>
    (m.mem_entries_iff).mp he
  rw [OrderedMap.keys, List.filterMap_map, OrderedMap.values, ← List.filterMap_eq_map]
  exact List.filterMap_congr hfind

/-- The rows of the sorted matrices are the entries in key order. -/
theorem filterMap_sortedIds : (sortedIds order m).filterMap m.find? = m.values := by
  rw [sortedIds_eq_keys, filterMap_find?_keys]

end Sorted

/-- Nodes and edges are kept under their own ids, all of them below the next ones. -/
structure IdsBelow (g : Graph F) : Prop where
  node : ∀ {id node}, g.nodes.find? id = some node → node.id = id ∧ id < g.next_node_id
  edge : ∀ {id edge}, g.edges.find? id = some edge → edge.id = id ∧ id < g.next_edge_id

theorem idsBelow_new : IdsBelow (new : Graph F) where
  node h := by simp [new] at h
  edge h := by simp [new] at h

theorem IdsBelow.add_node {g : Graph F} (h : g.IdsBelow) (node : GraphNode F) :
    (g.add_node node).IdsBelow where
  node := by
    intro id node' hfind
    rw [add_node_nodes, OrderedMap.find?_insert] at hfind
    split at hfind
    · rename_i heq
      cases hfind
      exact ⟨heq.symm, heq ▸ Nat.lt_succ_self _⟩
    · exact ⟨(h.node hfind).1, Nat.lt_succ_of_lt (h.node hfind).2⟩
  edge := h.edge

theorem IdsBelow.add_edge {g : Graph F} (h : g.IdsBelow) (edge : GraphEdge F) :
    (g.add_edge edge).IdsBelow where
  node := h.node
  edge := by
    intro id edge' hfind
    rw [add_edge_edges, OrderedMap.find?_insert] at hfind
    split at hfind
    · rename_i heq
      cases hfind
      exact ⟨heq.symm, heq ▸ Nat.lt_succ_self _⟩
    · exact ⟨(h.edge hfind).1, Nat.lt_succ_of_lt (h.edge hfind).2⟩

theorem IdsBelow.find?_next_edge {g : Graph F} (h : g.IdsBelow) :
    g.edges.find? g.next_edge_id = none := by
  rw [Option.eq_none_iff_forall_ne_some]
  intro edge hfind
  exact absurd (h.edge hfind).2 (Nat.lt_irrefl _)

/-- The directed multigraphs: every edge is added between nodes of the graph. -/
inductive Multigraph : Graph F → Prop
  | new : Multigraph new
  | add_node {g : Graph F} (h : Multigraph g) (node : GraphNode F) : Multigraph (g.add_node node)
  | add_edge {g : Graph F} (h : Multigraph g) (edge : GraphEdge F)
      (hsource : (g.nodes.find? edge.source).isSome)
      (htarget : (g.nodes.find? edge.target).isSome) : Multigraph (g.add_edge edge)

/-- The edges are listed with the node at one of their ends. -/
structure Listed (g : Graph F) (key : GraphEdge F → NodeId)
    (index : OrderedMap NodeId (List EdgeId)) : Prop where
  mem_iff : ∀ {node id}, id ∈ (index.find? node).getD [] ↔
    ∃ edge, g.edges.find? id = some edge ∧ key edge = node

theorem Listed.add_node {g : Graph F} {key : GraphEdge F → NodeId}
    {index : OrderedMap NodeId (List EdgeId)} (h : g.Listed key index) (node : GraphNode F)
    (hnew : ∀ {id edge}, g.edges.find? id = some edge → key edge ≠ g.next_node_id) :
    (g.add_node node).Listed key (index.insert g.next_node_id []) where
  mem_iff := by
    intro n id
    rw [OrderedMap.find?_insert, add_node_edges]
    split
    · rename_i heq
      refine iff_of_false (List.not_mem_nil) ?_
      rintro ⟨edge, hfind, hkey⟩
      exact hnew hfind (hkey.trans heq)
    · exact h.mem_iff

theorem Listed.add_edge {g : Graph F} {key : GraphEdge F → NodeId}
    {index : OrderedMap NodeId (List EdgeId)} (h : g.Listed key index) (hids : g.IdsBelow)
    (edge : GraphEdge F) (hkey : key { edge with id := g.next_edge_id } = key edge) :
    (g.add_edge edge).Listed key
      (index.upsert (key edge) fun ids => ids.getD [] ++ [g.next_edge_id]) where
  mem_iff := by
    intro n id
    have hid : (∃ edge', g.edges.find? id = some edge' ∧ key edge' = n) →
        id ≠ g.next_edge_id := by
      rintro ⟨edge', hfind, -⟩ rfl
      rw [hids.find?_next_edge] at hfind
      cases hfind
    simp only [add_edge_edges, OrderedMap.find?_upsert, OrderedMap.find?_insert]
    have hlisted := @h.mem_iff n id
    by_cases hn : n = key edge
    · subst hn
      by_cases hnew : id = g.next_edge_id
      · simp [hnew, hkey]
      · simp [hnew, hlisted]
    · by_cases hnew : id = g.next_edge_id
      · rw [if_neg hn, if_pos hnew, hlisted]
        refine iff_of_false (fun hex => hid hex hnew) ?_
        rintro ⟨edge', hfind, hkey'⟩
        cases hfind
        exact hn (hkey'.symm.trans hkey)
      · rw [if_neg hn, if_neg hnew, hlisted]

/-- The ends of the edges are nodes, and the edges out of a node are listed with it. -/
structure Adjacent (g : Graph F) : Prop where
  ids : g.IdsBelow
  ends : ∀ {id edge}, g.edges.find? id = some edge →
    (g.nodes.find? edge.source).isSome ∧ (g.nodes.find? edge.target).isSome
  listed : ∀ {node id}, id ∈ (g.adjacency.find? node).getD [] ↔
    ∃ edge, g.edges.find? id = some edge ∧ edge.source = node

theorem adjacent_new : Adjacent (new : Graph F) where
  ids := idsBelow_new
  ends h := by simp [new] at h
  listed := by simp [new]

theorem Adjacent.sources_listed {g : Graph F} (h : g.Adjacent) :
    g.Listed GraphEdge.source g.adjacency := ⟨h.listed⟩

/-- No edge has the new node at an end: its id was not given out yet. -/
theorem Adjacent.ends_ne {g : Graph F} (h : g.Adjacent) {id : EdgeId} {edge : GraphEdge F}
    (hfind : g.edges.find? id = some edge) :
    edge.source ≠ g.next_node_id ∧ edge.target ≠ g.next_node_id := by
  obtain ⟨source, hsource⟩ := Option.isSome_iff_exists.mp (h.ends hfind).1
  obtain ⟨target, htarget⟩ := Option.isSome_iff_exists.mp (h.ends hfind).2
  exact ⟨(h.ids.node hsource).2.ne, (h.ids.node htarget).2.ne⟩

theorem Adjacent.add_node {g : Graph F} (h : g.Adjacent) (node : GraphNode F) :
    (g.add_node node).Adjacent where
  ids := h.ids.add_node node
  ends := by
    intro id edge hfind
    have hkept : ∀ n, (g.nodes.find? n).isSome → ((g.add_node node).nodes.find? n).isSome := by
      intro n hn
      rw [add_node_nodes, OrderedMap.find?_insert]
      split
      · rfl
      · exact hn
    exact ⟨hkept _ (h.ends hfind).1, hkept _ (h.ends hfind).2⟩
  listed := (h.sources_listed.add_node node fun hfind => (h.ends_ne hfind).1).mem_iff

theorem Adjacent.add_edge {g : Graph F} (h : g.Adjacent) {edge : GraphEdge F}
    (hsource : (g.nodes.find? edge.source).isSome)
    (htarget : (g.nodes.find? edge.target).isSome) : (g.add_edge edge).Adjacent where
  ids := h.ids.add_edge edge
  ends := by
    intro id edge' hfind
    rw [add_edge_edges, OrderedMap.find?_insert] at hfind
    split at hfind
    · cases hfind
      exact ⟨hsource, htarget⟩
    · exact h.ends hfind
  listed := (h.sources_listed.add_edge h.ids edge rfl).mem_iff

theorem Multigraph.adjacent {g : Graph F} (h : Multigraph g) : g.Adjacent := by
  induction h with
  | new => exact adjacent_new
  | add_node _ node ih => exact ih.add_node node
  | add_edge _ edge hsource htarget ih => exact ih.add_edge hsource htarget

/-- The edges into a node are listed with it. -/
theorem Multigraph.reverse_listed {g : Graph F} (h : Multigraph g) :
    g.Listed GraphEdge.target g.reverse_adjacency := by
  induction h with
  | new => exact ⟨by simp [Graph.new]⟩
  | add_node hg node ih => exact ih.add_node node fun hfind => (hg.adjacent.ends_ne hfind).2
  | add_edge hg edge _ _ ih => exact ih.add_edge hg.adjacent.ids edge rfl

section Adjacent

variable {g : Graph F}

theorem mem_edgesAt {key : GraphEdge F → NodeId} {index : OrderedMap NodeId (List EdgeId)}
    (h : g.Listed key index) {node : NodeId} {edge : GraphEdge F} :
    edge ∈ ((index.find? node).map fun ids => ids.filterMap g.get_edge).getD [] ↔
      edge ∈ g.edges.values ∧ key edge = node := by
  have hlist : ((index.find? node).map fun ids => ids.filterMap g.get_edge).getD [] =
      ((index.find? node).getD []).filterMap g.get_edge := by
    cases index.find? node <;> rfl
  rw [hlist, List.mem_filterMap, OrderedMap.mem_values_iff]
  constructor
  · rintro ⟨id, hid, hedge⟩
    obtain ⟨edge', hfind, hkey⟩ := h.mem_iff.mp hid
    cases hedge.symm.trans hfind
    exact ⟨⟨id, hedge⟩, hkey⟩
  · rintro ⟨⟨id, hedge⟩, hkey⟩
    exact ⟨id, h.mem_iff.mpr ⟨edge, hedge, hkey⟩, hedge⟩

theorem Adjacent.mem_outgoing_edges (h : g.Adjacent) {node : NodeId} {edge : GraphEdge F} :
    edge ∈ g.outgoing_edges node ↔ edge ∈ g.edges.values ∧ edge.source = node :=
  mem_edgesAt h.sources_listed

theorem Multigraph.mem_incoming_edges (h : Multigraph g) {node : NodeId} {edge : GraphEdge F} :
    edge ∈ g.incoming_edges node ↔ edge ∈ g.edges.values ∧ edge.target = node :=
  mem_edgesAt h.reverse_listed

theorem Adjacent.get_edge_id (h : g.Adjacent) {edge : GraphEdge F} (hedge : edge ∈ g.edges.values) :
    g.get_edge edge.id = some edge := by
  obtain ⟨id, hfind⟩ := (OrderedMap.mem_values_iff _).mp hedge
  rw [(h.ids.edge hfind).1]
  exact hfind

end Adjacent

end Graph

end Datasynth.Graphs.Models
