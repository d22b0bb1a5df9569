import Mathlib.Algebra.Order.Field.Basic
import Mathlib.Algebra.Order.Field.Rat
import Datasynth.Graphs.Models
import Datasynth.Lib.BreadthFirst

/-!
Groups of entities by connected components: which graphs and bounds let them be found whole.
Weights are values of any ordered field.
-/

namespace Datasynth.Graphs.EntityGroups

open Datasynth.Graphs.Models
open Datasynth.Lib.BreadthFirst
open Datasynth.Lib.HashIteration
open Datasynth.Lib.SortedEntries

inductive GroupType
  | relatedParty
  | vendorRing
  | customerCluster
  | muleNetwork
  | intercompany
  | approvalChain
  | transactionCluster
  | custom (name : String)
deriving DecidableEq

structure GroupDetectionConfig (F : Type) where
  min_group_size : ℕ
  max_group_size : ℕ
  min_cohesion : F
  classify_types : Bool

structure EntityGroup (F : Type) where
  group_id : ℕ
  members : List NodeId
  group_type : GroupType
  confidence : F
  hub_node : Option NodeId
  internal_volume : F
  external_volume : F
  cohesion : F

section Model

variable {F : Type} [Field F] [LinearOrder F] (order : HashOrder) (g : Graph F)

omit [Field F] [LinearOrder F] in
/-- In hash order. -/
def neighbors (node_id : NodeId) : List NodeId :=
  order.iter ((g.outgoing_edges node_id).map (·.target) ++
    (g.incoming_edges node_id).map (·.source)).dedup

def classify_group_type (members : List NodeId) : GroupType :=
  let has_cycles := members.any fun node =>
    (g.outgoing_edges node).any (fun e => e.target ∈ members) &&
      (g.incoming_edges node).any fun e => e.source ∈ members
  let within (types : List EdgeType) := g.edges.values.any fun e =>
    e.source ∈ members && e.target ∈ members && e.edge_type ∈ types
  let anomalous_nodes := (members.filter fun n =>
    ((g.nodes.find? n).map (·.is_anomaly)).getD false).length
  let anomaly_rate : F := anomalous_nodes / members.length
  if within [.ownership, .intercompany] then .intercompany
  else if within [.approval, .reportsTo] then .approvalChain
  else if has_cycles && 1 / (2 : ℕ) < anomaly_rate then .muleNetwork
  else if has_cycles then .vendorRing
  else if (3 : ℕ) / (10 : ℕ) < anomaly_rate then .muleNetwork
  else .transactionCluster

structure GroupMetrics (F : Type) where
  internal_volume : F
  external_volume : F
  cohesion : F

def calculate_group_metrics (members : List NodeId) : GroupMetrics F :=
  let outgoing := members.flatMap g.outgoing_edges
  let incoming := members.flatMap g.incoming_edges
  let internal := outgoing.filter fun e => e.target ∈ members
  let external := outgoing.filter (fun e => e.target ∉ members) ++
    incoming.filter fun e => e.source ∉ members
  let max_possible_edges := members.length * (members.length - 1)
  { internal_volume := (internal.map (·.weight)).sum
    external_volume := (external.map (·.weight)).sum
    cohesion := if 0 < max_possible_edges then internal.length / max_possible_edges else 0 }

/-- The last of the members with the most neighbours in the group. -/
def find_hub_node (members : List NodeId) : Option NodeId :=
  let internal_degree (n : NodeId) := ((neighbors order g n).filter (· ∈ members)).length
  members.foldl (fun hub n =>
    if hub.all fun h => internal_degree h ≤ internal_degree n then some n else hub) none

def groupOf (config : GroupDetectionConfig F) (group_id : ℕ) (members : List NodeId) :
    EntityGroup F :=
  let metrics := calculate_group_metrics g members
  { group_id := group_id
    members := members
    group_type :=
      if config.classify_types then classify_group_type g members else .transactionCluster
    confidence := 1
    hub_node := find_hub_node order g members
    internal_volume := metrics.internal_volume
    external_volume := metrics.external_volume
    cohesion := metrics.cohesion }

variable (config : GroupDetectionConfig F)

/-- The starts that are left.  An id is used up also for a group without enough cohesion. -/
def detectFrom : List NodeId → List NodeId → ℕ → List (EntityGroup F) × ℕ
  | [], _, next_id => ([], next_id)
  | start_node :: starts, visited, next_id =>
      if start_node ∈ visited then detectFrom starts visited next_id
      else
        let found := search (neighbors order g) config.max_group_size g.nodes.keys.length
          (visited ++ [start_node]) [start_node] []
        let component := found.1
        if config.min_group_size ≤ component.length ∧
            component.length ≤ config.max_group_size then
          let group := groupOf order g config next_id component
          let rest := detectFrom starts found.2 (next_id + 1)
          if config.min_cohesion ≤ group.cohesion then (group :: rest.1, rest.2) else rest
        else detectFrom starts found.2 next_id

/-- The nodes are visited in hash order. -/
def detect_connected_components (next_id : ℕ) : List (EntityGroup F) × ℕ :=
  detectFrom order g config (order.iter g.nodes.keys) [] next_id

end Model

section Groups

variable {F : Type} {order : HashOrder} {g : Graph F}

/-- An edge joins the nodes, in one direction or the other. -/
def Linked (g : Graph F) (a b : NodeId) : Prop :=
  ∃ edge ∈ g.edges.values, edge.source = a ∧ edge.target = b ∨ edge.source = b ∧ edge.target = a

/-- A connected component of the undirected graph, each node once. -/
def IsComponent (g : Graph F) (members : List NodeId) : Prop :=
  members.Nodup ∧ ∃ start, (g.nodes.find? start).isSome ∧
    ∀ a, a ∈ members ↔ Relation.ReflTransGen (Linked g) start a

theorem mem_neighbors (hg : g.Multigraph) {a b : NodeId} :
    b ∈ neighbors order g a ↔ Linked g a b := by
  rw [neighbors, (order.perm _).mem_iff, List.mem_dedup, List.mem_append, List.mem_map,
    List.mem_map]
  simp only [hg.adjacent.mem_outgoing_edges, hg.mem_incoming_edges]
  constructor
  · rintro (⟨edge, ⟨hedge, hsource⟩, htarget⟩ | ⟨edge, ⟨hedge, htarget⟩, hsource⟩)
    · exact ⟨edge, hedge, .inl ⟨hsource, htarget⟩⟩
    · exact ⟨edge, hedge, .inr ⟨hsource, htarget⟩⟩
  · rintro ⟨edge, hedge, ⟨hsource, htarget⟩ | ⟨hsource, htarget⟩⟩
    · exact .inl ⟨edge, ⟨hedge, hsource⟩, htarget⟩
    · exact .inr ⟨edge, ⟨hedge, htarget⟩, hsource⟩

theorem linked_symm {a b : NodeId} (h : Linked g a b) : Linked g b a := by
  obtain ⟨edge, hedge, hends⟩ := h
  exact ⟨edge, hedge, hends.symm⟩

theorem mem_keys_of_linked (hg : g.Multigraph) {a b : NodeId} (h : Linked g a b) :
    b ∈ g.nodes.keys := by
  obtain ⟨edge, hedge, hends⟩ := h
  obtain ⟨id, hfind⟩ := (OrderedMap.mem_values_iff _).mp hedge
  obtain ⟨hsource, htarget⟩ := hg.adjacent.ends hfind
  rw [OrderedMap.mem_keys_iff]
  rcases hends with ⟨-, rfl⟩ | ⟨rfl, -⟩
  · exact htarget
  · exact hsource

variable (order) in
theorem neighbors_symm (hg : g.Multigraph) :
    ∀ a, ∀ b ∈ neighbors order g a, a ∈ neighbors order g b := by
  intro a b hb
  rw [mem_neighbors hg] at hb ⊢
  exact linked_symm hb

variable (order) in
theorem neighbors_closed (hg : g.Multigraph) :
    ∀ a ∈ g.nodes.keys, ∀ b ∈ neighbors order g a, b ∈ g.nodes.keys :=
  fun _ _ _ hb => mem_keys_of_linked hg ((mem_neighbors hg).mp hb)

variable (order) in
theorem reaches_iff (hg : g.Multigraph) {a b : NodeId} :
    Reaches (neighbors order g) a b ↔ Relation.ReflTransGen (Linked g) a b := by
  have hrel : (fun a b => b ∈ neighbors order g a) = Linked g := by
    funext a b
    exact propext (mem_neighbors hg)
  rw [Reaches, hrel]

variable (order) in
theorem isComponent_iff (hg : g.Multigraph) {members : List NodeId} :
    IsComponent g members ↔
      Whole (neighbors order g) members ∧ ∃ a ∈ members, a ∈ g.nodes.keys := by
  constructor
  · rintro ⟨hnodup, start, hstart, hmembers⟩
    refine ⟨⟨hnodup, start, fun a => (hmembers a).trans (reaches_iff order hg).symm⟩, start, ?_, ?_⟩
    · exact (hmembers start).mpr .refl
    · exact (g.nodes.mem_keys_iff).mpr hstart
  · rintro ⟨⟨hnodup, start, hmembers⟩, a, ha, hkey⟩
    have hstart : start ∈ g.nodes.keys :=
      mem_of_reaches (neighbors_closed order hg) hkey
        (reaches_symm (neighbors_symm order hg) ((hmembers a).mp ha))
    exact ⟨hnodup, start, (g.nodes.mem_keys_iff).mp hstart,
      fun b => (hmembers b).trans (reaches_iff order hg)⟩

/-- Components with a common node have the same nodes. -/
theorem IsComponent.perm {members members' : List NodeId} (h : IsComponent g members)
    (h' : IsComponent g members') {a : NodeId} (ha : a ∈ members) (ha' : a ∈ members') :
    members.Perm members' := by
  obtain ⟨hnodup, start, -, hmembers⟩ := h
  obtain ⟨hnodup', start', -, hmembers'⟩ := h'
  have hsymm : ∀ {b c}, Relation.ReflTransGen (Linked g) b c →
      Relation.ReflTransGen (Linked g) c b := by
    intro b c hbc
    induction hbc with
    | refl => exact .refl
    | tail _ hstep ih => exact .head (linked_symm hstep) ih
  have hpath := ((hmembers a).mp ha).trans (hsymm ((hmembers' a).mp ha'))
  refine (List.perm_ext_iff_of_nodup hnodup hnodup').mpr fun b => ?_
  rw [hmembers, hmembers']
  exact ⟨(hsymm hpath).trans, hpath.trans⟩

theorem IsComponent.length_le (hg : g.Multigraph) {members : List NodeId}
    (h : IsComponent g members) : members.length ≤ g.nodes.keys.length := by
  obtain ⟨hnodup, start, hstart, hmembers⟩ := h
  refine (List.subperm_of_subset hnodup fun a ha => ?_).length_le
  have hpath := (hmembers a).mp ha
  rw [← reaches_iff .insertion hg] at hpath
  exact mem_of_reaches (neighbors_closed _ hg) ((g.nodes.mem_keys_iff).mpr hstart) hpath

end Groups

section Result

variable {F : Type} [Field F] [LinearOrder F] [IsStrictOrderedRing F] {g : Graph F}
  {config : GroupDetectionConfig F}

/-- The groups are the connected components whose size lies within the bounds, each once and
whole. -/
structure Exact (g : Graph F) (config : GroupDetectionConfig F) (groups : List (EntityGroup F)) :
    Prop where
  whole : ∀ group ∈ groups, IsComponent g group.members
  sized : ∀ group ∈ groups, config.min_group_size ≤ group.members.length ∧
    group.members.length ≤ config.max_group_size
  all : ∀ members, IsComponent g members → config.min_group_size ≤ members.length →
    members.length ≤ config.max_group_size → ∃ group ∈ groups, group.members.Perm members
  disjoint : groups.Pairwise fun group group' => group.members.Disjoint group'.members

theorem cohesion_nonneg (members : List NodeId) :
    0 ≤ (calculate_group_metrics g members).cohesion := by
  rw [calculate_group_metrics]
  dsimp only
  split
  · exact div_nonneg (Nat.cast_nonneg _) (by exact_mod_cast Nat.zero_le _)
  · exact le_rfl

theorem map_members_detectFrom (order : HashOrder) (hcohesion : config.min_cohesion = 0)
    (starts : List NodeId) :
    ∀ visited next_id, (detectFrom order g config starts visited next_id).1.map (·.members) =
      (components (neighbors order g) config.max_group_size g.nodes.keys.length starts
        visited).filter fun members => config.min_group_size ≤ members.length ∧
          members.length ≤ config.max_group_size := by
  induction starts with
  | nil => exact fun _ _ => rfl
  | cons start starts ih =>
      intro visited next_id
      rw [detectFrom, components]
      split
      · exact ih visited next_id
      · dsimp only
        generalize search (neighbors order g) config.max_group_size g.nodes.keys.length
          (visited ++ [start]) [start] [] = found
        rw [List.filter_cons]
        by_cases hsized : config.min_group_size ≤ found.1.length ∧
            found.1.length ≤ config.max_group_size
        · have hcohesive : config.min_cohesion ≤
              (groupOf order g config next_id found.1).cohesion := by
            rw [hcohesion]
            exact cohesion_nonneg found.1
          rw [if_pos hsized, if_pos hcohesive, if_pos (decide_eq_true hsized), List.map_cons, ih]
          rfl
        · rw [if_neg hsized, if_neg (by simpa using hsized), ih]

variable {order : HashOrder}

variable (order) in
/-- What the groups are by their members. -/
theorem exists_group_iff (hcohesion : config.min_cohesion = 0) (next_id : ℕ)
    (members : List NodeId) :
    (∃ group ∈ (detect_connected_components order g config next_id).1, group.members = members) ↔
      members ∈ components (neighbors order g) config.max_group_size g.nodes.keys.length
          (order.iter g.nodes.keys) [] ∧
        config.min_group_size ≤ members.length ∧ members.length ≤ config.max_group_size := by
  rw [← List.mem_map, detect_connected_components, map_members_detectFrom order hcohesion,
    List.mem_filter, decide_eq_true_iff]

/-- Bounds that no component is above. -/
theorem exact_of_le (hg : g.Multigraph) (hcohesion : config.min_cohesion = 0)
    (hbound : ∀ members, IsComponent g members → members.length ≤ config.max_group_size)
    (next_id : ℕ) : Exact g config (detect_connected_components order g config next_id).1 := by
  have hstarts : ∀ start ∈ order.iter g.nodes.keys, start ∈ g.nodes.keys :=
    fun start hstart => (order.perm _).mem_iff.mp hstart
  have hcovered := covered_components config.max_group_size (neighbors_symm order hg)
    (neighbors_closed order hg)
    (fun l hl a ha hkey => hbound l ((isComponent_iff order hg).mpr ⟨hl, a, ha, hkey⟩)) hstarts []
    (List.forall_mem_nil _)
  have hcomponent : ∀ c ∈ components (neighbors order g) config.max_group_size
      g.nodes.keys.length (order.iter g.nodes.keys) [], IsComponent g c := by
    intro c hc
    obtain ⟨start, hstart, hmem⟩ := hcovered.start c hc
    exact (isComponent_iff order hg).mpr ⟨hcovered.whole c hc, start, hmem, hstarts start hstart⟩
  have hgroup := fun members => exists_group_iff (g := g) order hcohesion next_id members
  refine ⟨?_, ?_, ?_, ?_⟩
  · exact fun group hmem => hcomponent _ ((hgroup _).mp ⟨group, hmem, rfl⟩).1
  · exact fun group hmem => ((hgroup _).mp ⟨group, hmem, rfl⟩).2
  · intro members hmembers hmin hmax
    obtain ⟨-, a, ha, hkey⟩ := (isComponent_iff order hg).mp hmembers
    obtain hnil | ⟨c, hc, hac⟩ := hcovered.covers a ((order.perm _).mem_iff.mpr hkey)
    · cases hnil
    · have hperm := (hcomponent c hc).perm hmembers hac ha
      rw [← hperm.length_eq] at hmin hmax
      obtain ⟨group, hmem, rfl⟩ := (hgroup c).mpr ⟨hc, hmin, hmax⟩
      exact ⟨group, hmem, hperm⟩
  · rw [← List.pairwise_map, detect_connected_components, map_members_detectFrom order hcohesion]
    exact hcovered.disjoint.filter _

/-- Bounds that no size is within. -/
theorem exact_of_empty (hg : g.Multigraph) (hcohesion : config.min_cohesion = 0)
    (hempty : config.max_group_size = 0 ∨ config.max_group_size < config.min_group_size)
    (next_id : ℕ) : Exact g config (detect_connected_components order g config next_id).1 := by
  have hstarts : ∀ start ∈ order.iter g.nodes.keys, start ∈ g.nodes.keys :=
    fun start hstart => (order.perm _).mem_iff.mp hstart
  have hsize : ∀ members : List NodeId, members ≠ [] →
      ¬(config.min_group_size ≤ members.length ∧ members.length ≤ config.max_group_size) := by
    intro members hne
    have := List.length_pos_iff.mpr hne
    omega
  have hnone : (detect_connected_components order g config next_id).1 = [] := by
    rw [List.eq_nil_iff_forall_not_mem]
    intro group hmem
    obtain ⟨hc, hsized⟩ := (exists_group_iff order hcohesion next_id _).mp ⟨group, hmem, rfl⟩
    exact hsize _ (ne_nil_of_mem_components (neighbors_closed order hg) hstarts [] hc) hsized
  rw [hnone]
  refine ⟨List.forall_mem_nil _, List.forall_mem_nil _, ?_, .nil⟩
  rintro members ⟨-, start, -, hmembers⟩ hmin hmax
  exact absurd ⟨hmin, hmax⟩ (hsize members (List.ne_nil_of_mem ((hmembers start).mpr .refl)))

theorem exact_iff (hg : g.Multigraph) (hcohesion : config.min_cohesion = 0) (order : HashOrder)
    (next_id : ℕ) :
    Exact g config (detect_connected_components order g config next_id).1 ↔
      config.max_group_size = 0 ∨ config.max_group_size < config.min_group_size ∨
        ∀ members, IsComponent g members → members.length ≤ config.max_group_size := by
  constructor
  · intro hexact
    by_contra hlarge
    push Not at hlarge
    obtain ⟨hpos, hle, large, hlarge, hlt⟩ := hlarge
    obtain ⟨hwhole, a, ha, hkey⟩ := (isComponent_iff order hg).mp hlarge
    -- the fragment of the large component is within the bounds
    obtain ⟨c, hc, hlength, start, hstart, hmem⟩ := exists_fragment (neighbors_symm order hg)
      (neighbors_closed order hg) (Nat.pos_of_ne_zero hpos) hwhole hlt
      (fun start hstart => (order.perm _).mem_iff.mp hstart)
      ⟨a, (order.perm _).mem_iff.mpr hkey, ha⟩ [] (fun _ _ => List.not_mem_nil)
    obtain ⟨group, hgroup, rfl⟩ := (exists_group_iff order hcohesion next_id c).mpr
      ⟨hc, by omega, by omega⟩
    have hperm := (hexact.whole group hgroup).perm hlarge hmem hstart
    exact hlt.ne (hlength.symm.trans hperm.length_eq)
  · rintro (hzero | hlt | hbound)
    · exact exact_of_empty hg hcohesion (.inl hzero) next_id
    · exact exact_of_empty hg hcohesion (.inr hlt) next_id
    · exact exact_of_le hg hcohesion hbound next_id

/-- Three companies in a row. -/
def row : Graph ℚ :=
  let company : GraphNode ℚ := .new 0 .company
  ((((Graph.new.add_node company).add_node company).add_node company).add_edge
    (.new 0 1 2 .transaction)).add_edge (.new 0 2 3 .transaction)

theorem row_multigraph : row.Multigraph :=
  .add_edge (.add_edge (.add_node (.add_node (.add_node .new _) _) _) _ (by decide) (by decide)) _
    (by decide) (by decide)

/-- Room for three. -/
theorem exact_row : Exact row ⟨1, 3, 0, true⟩
    (detect_connected_components .insertion row ⟨1, 3, 0, true⟩ 1).1 :=
  (exact_iff row_multigraph rfl .insertion 1).mpr
    (.inr (.inr fun _ h => (h.length_le row_multigraph).trans (by decide)))

/-- Room for two: the first two are a group, and the third is in none. -/
theorem row_not_exact : ¬Exact row ⟨1, 2, 0, true⟩
    (detect_connected_components .insertion row ⟨1, 2, 0, true⟩ 1).1 := by
  intro h
  have hmembers : [1, 2] ∈ (detect_connected_components .insertion row ⟨1, 2, 0, true⟩ 1).1.map
      (·.members) := by
    decide +kernel
  obtain ⟨group, hgroup, heq⟩ := List.mem_map.mp hmembers
  obtain ⟨-, start, -, hreached⟩ := h.whole group hgroup
  have hlinked : Linked row 2 3 := ⟨.new 2 2 3 .transaction, by decide, .inl ⟨rfl, rfl⟩⟩
  have htwo : 2 ∈ group.members := by
    rw [heq]
    decide
  have hthree := (hreached 3).mpr (((hreached 2).mp htwo).tail hlinked)
  rw [heq] at hthree
  exact absurd hthree (by decide)

end Result

end Datasynth.Graphs.EntityGroups
