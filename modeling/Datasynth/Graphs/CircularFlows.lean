import Datasynth.Graphs.Models
import Datasynth.Lib.ListRearrangement

/-!
The search for circular flows: every directed cycle of the graph within the bounds is
found once, up to rotation and direction.
-/

namespace Datasynth.Graphs.CircularFlows

open Datasynth.Graphs.Models
open Datasynth.Lib.CivilCalendar
open Datasynth.Lib.CycleForms
open Datasynth.Lib.FirstOfKey
open Datasynth.Lib.HashIteration
open Datasynth.Lib.SortedEntries

inductive GraphMotif
  | circularFlow (length : ℕ)
deriving DecidableEq

structure MotifConfig (F : Type) where
  max_cycle_length : ℕ
  min_edge_weight : F
  max_results_per_type : ℕ

structure MotifInstance (F : Type) where
  motif_type : GraphMotif
  nodes : List NodeId
  edges : List EdgeId
  total_weight : F
  time_span_days : Option ℤ
  confidence : F
deriving DecidableEq

/-- The smallest node first, in the direction of the smaller list. -/
def canonicalize_cycle (path : List NodeId) : List NodeId :=
  let min_pos := path.findIdx fun node => path.all (node ≤ ·)
  let canonical := path.drop min_pos ++ path.take min_pos
  let reversed :=
    match canonical.reverse.getLast? with
    | some last => last :: canonical.reverse.dropLast
    | none => []
  if reversed < canonical then reversed else canonical

section Search

variable {F : Type} [Zero F] [One F] [Add F] [LT F] [DecidableLT F]

def calculate_time_span (g : Graph F) (edge_ids : List EdgeId) : Option ℤ :=
  let dates := ((edge_ids.filterMap g.get_edge).filterMap (·.timestamp)).map (·.dayNumber)
  if dates.length < 2 then none
  else dates.max?.bind fun max_date => dates.min?.map fun min_date => max_date - min_date

def motifOf (g : Graph F) (path : List NodeId) (path_edges : List EdgeId) (edge : GraphEdge F) :
    MotifInstance F :=
  let edges := path_edges ++ [edge.id]
  { motif_type := .circularFlow path.length
    nodes := path
    edges := edges
    total_weight :=
      ((path_edges.filterMap g.get_edge).map (·.weight)).foldl (· + ·) 0 + edge.weight
    time_span_days := calculate_time_span g edges
    confidence := 1 }

structure Search (F : Type) where
  cycles : List (MotifInstance F)
  seen_cycles : List (List NodeId)

omit [Zero F] [One F] [Add F] [LT F] [DecidableLT F] in
def Search.add (search : Search F) (motif : MotifInstance F) : Search F :=
  if canonicalize_cycle motif.nodes ∈ search.seen_cycles then search
  else
    { cycles := search.cycles ++ [motif]
      seen_cycles := canonicalize_cycle motif.nodes :: search.seen_cycles }

variable (g : Graph F) (config : MotifConfig F)

/-- `remaining` is how many more nodes the path may have, and one. -/
def dfs_find_cycles (start : NodeId) : ℕ → NodeId → List NodeId → List EdgeId → List NodeId →
    Search F → Search F
  | 0, _, _, _, _, search => search
  | remaining + 1, current, path, path_edges, visited, search =>
      (g.outgoing_edges current).foldl (fun search edge =>
        if edge.weight < config.min_edge_weight then search
        else if edge.target = start ∧ 3 ≤ path.length then
          search.add (motifOf g path path_edges edge)
        else if edge.target ∉ visited then
          dfs_find_cycles start remaining edge.target (path ++ [edge.target])
            (path_edges ++ [edge.id]) (edge.target :: visited) search
        else search) search

def find_cycles_from_node (start : NodeId) (search : Search F) : Search F :=
  dfs_find_cycles g config start config.max_cycle_length start [start] [] [start] search

/-- The search ends early when there are enough results. -/
def searchFrom : List NodeId → Search F → Search F
  | [], search => search
  | start :: starts, search =>
      let search := find_cycles_from_node g config start search
      if config.max_results_per_type ≤ search.cycles.length then search
      else searchFrom starts search

/-- The nodes are visited in hash order. -/
def find_circular_flows (order : HashOrder) : List (MotifInstance F) :=
  (searchFrom g config (order.iter g.nodes.keys) ⟨[], []⟩).cycles.take
    config.max_results_per_type

end Search

theorem isForm_canonicalize_cycle : IsForm canonicalize_cycle := by
  intro path hne
  obtain ⟨least, hleast⟩ := Option.isSome_iff_exists.mp (List.isSome_min?_of_ne_nil hne)
  obtain ⟨hmem, hle⟩ := List.min?_eq_some_iff.mp hleast
  let min_pos := path.findIdx fun node => path.all (node ≤ ·)
  have hlt : min_pos < path.length :=
    List.findIdx_lt_length_of_exists ⟨least, hmem, by simpa using hle⟩
  have hall : path.all (path[min_pos] ≤ ·) = true :=
    List.findIdx_getElem (w := hlt)
  have hcanonical : path.drop min_pos ++ path.take min_pos =
      path[min_pos] :: (path.drop (min_pos + 1) ++ path.take min_pos) := by
    rw [List.drop_eq_getElem_cons hlt, List.cons_append]
  refine ⟨path[min_pos], path.drop (min_pos + 1) ++ path.take min_pos, ?_, ?_, ?_⟩
  · rw [← hcanonical, ← List.rotate_eq_drop_append_take hlt.le]
    exact ⟨min_pos, rfl⟩
  · intro x hx
    have hpath : x ∈ path := by
      rcases List.mem_append.mp hx with hx | hx
      · exact List.mem_of_mem_drop hx
      · exact List.mem_of_mem_take hx
    exact of_decide_eq_true (List.all_eq_true.mp hall x hpath)
  · change (if (match (path.drop min_pos ++ path.take min_pos).reverse.getLast? with
      | some last => last :: (path.drop min_pos ++ path.take min_pos).reverse.dropLast
      | none => []) < path.drop min_pos ++ path.take min_pos then _ else _) = _
    rw [hcanonical]
    simp [orientedForm]

section Found

variable {F : Type} [Zero F] [One F] [Add F] [LT F] [DecidableLT F]
  (g : Graph F) (config : MotifConfig F)

/-- The cycles that the search comes by, those it has seen before among them. -/
def motifsFrom (start : NodeId) : ℕ → NodeId → List NodeId → List EdgeId → List NodeId →
    List (MotifInstance F)
  | 0, _, _, _, _ => []
  | remaining + 1, current, path, path_edges, visited =>
      (g.outgoing_edges current).flatMap fun edge =>
        if edge.weight < config.min_edge_weight then []
        else if edge.target = start ∧ 3 ≤ path.length then [motifOf g path path_edges edge]
        else if edge.target ∉ visited then
          motifsFrom start remaining edge.target (path ++ [edge.target])
            (path_edges ++ [edge.id]) (edge.target :: visited)
        else []

variable {g config}

theorem dfs_find_cycles_eq (start : NodeId) (remaining : ℕ) (current : NodeId)
    (path : List NodeId) (path_edges : List EdgeId) (visited : List NodeId) (search : Search F) :
    dfs_find_cycles g config start remaining current path path_edges visited search =
      (motifsFrom g config start remaining current path path_edges visited).foldl Search.add
        search := by
  induction remaining generalizing current path path_edges visited search with
  | zero => rfl
  | succ remaining ih =>
      rw [dfs_find_cycles, motifsFrom, List.foldl_flatMap]
      congr 1
      funext search edge
      split_ifs
      · rfl
      · rfl
      · rfl
      · exact ih ..

omit [Zero F] [One F] [Add F] [LT F] [DecidableLT F] in
theorem cycles_foldl_add (motifs : List (MotifInstance F)) (search : Search F) :
    (motifs.foldl Search.add search).cycles =
      search.cycles ++ keepFirst (fun motif => canonicalize_cycle motif.nodes)
        search.seen_cycles motifs := by
  induction motifs generalizing search with
  | nil => simp [keepFirst]
  | cons motif motifs ih =>
      rw [List.foldl_cons, ih, keepFirst, Search.add]
      split_ifs
      · rfl
      · rw [List.append_assoc, List.singleton_append]

theorem searchFrom_eq {starts : List NodeId} {search : Search F}
    (h : (searchFrom g config starts search).cycles.length < config.max_results_per_type) :
    searchFrom g config starts search =
      (starts.flatMap fun start =>
        motifsFrom g config start config.max_cycle_length start [start] [] [start]).foldl
          Search.add search := by
  induction starts generalizing search with
  | nil => rfl
  | cons start starts ih =>
      simp only [searchFrom] at h ⊢
      split_ifs at h ⊢ with hlimit
      · exact absurd h hlimit.not_gt
      · rw [ih h, List.flatMap_cons, List.foldl_append, find_cycles_from_node, dfs_find_cycles_eq]

/-- Below the limit the result is the first motif of each cycle. -/
theorem find_circular_flows_eq {order : HashOrder}
    (h : (find_circular_flows g config order).length < config.max_results_per_type) :
    find_circular_flows g config order =
      keepFirst (fun motif => canonicalize_cycle motif.nodes) []
        ((order.iter g.nodes.keys).flatMap fun start =>
          motifsFrom g config start config.max_cycle_length start [start] [] [start]) := by
  have hlength : (searchFrom g config (order.iter g.nodes.keys) ⟨[], []⟩).cycles.length <
      config.max_results_per_type := by
    rw [find_circular_flows, List.length_take] at h
    omega
  rw [find_circular_flows, List.take_of_length_le hlength.le, searchFrom_eq hlength,
    cycles_foldl_add, List.nil_append]

end Found

section Cycles

variable {F : Type} [Zero F] [One F] [Add F] [LT F] [DecidableLT F]
  (g : Graph F) (config : MotifConfig F)

/-- An edge of the graph of sufficient weight. -/
def Sufficient (edge : GraphEdge F) : Prop :=
  edge ∈ g.edges.values ∧ ¬ edge.weight < config.min_edge_weight

/-- A directed simple cycle of allowed length, along edges of sufficient weight. -/
structure IsCycle (nodes : List NodeId) : Prop where
  length_ge : 3 ≤ nodes.length
  length_le : nodes.length ≤ config.max_cycle_length
  nodup : nodes.Nodup
  joined : ∀ ends ∈ nodes.zip (nodes.rotate 1), ∃ edge, Sufficient g config edge ∧ edge.ends = ends

/-- A motif that tells of a cycle: its edges in the order of the cycle, and their weight. -/
structure Describes (motif : MotifInstance F) : Prop where
  cycle : IsCycle g config motif.nodes
  kind : motif.motif_type = .circularFlow motif.nodes.length
  along : ∃ edges : List (GraphEdge F), (∀ edge ∈ edges, Sufficient g config edge) ∧
    edges.map GraphEdge.ends = motif.nodes.zip (motif.nodes.rotate 1) ∧
    motif.edges = edges.map (·.id) ∧
    motif.total_weight = (edges.map (·.weight)).foldl (· + ·) 0

/-- The paths of the search, with the edges they follow. -/
inductive Trail (start : NodeId) : List NodeId → List (GraphEdge F) → NodeId → Prop
  | start : Trail start [start] [] start
  | step {path : List NodeId} {edges : List (GraphEdge F)} {current : NodeId}
      {edge : GraphEdge F} : Trail start path edges current → Sufficient g config edge →
      edge.source = current → edge.target ∉ path →
      Trail start (path ++ [edge.target]) (edges ++ [edge]) edge.target

end Cycles

section Trails

variable {F : Type} [LT F] {g : Graph F} {config : MotifConfig F} {start current : NodeId}
  {path : List NodeId} {edges : List (GraphEdge F)}

theorem Trail.exists_tail (h : Trail g config start path edges current) :
    ∃ rest, path = start :: rest := by
  induction h with
  | start => exact ⟨[], rfl⟩
  | @step path edges current edge _ _ _ _ ih =>
      obtain ⟨rest, rfl⟩ := ih
      exact ⟨rest ++ [edge.target], rfl⟩

theorem Trail.nodup (h : Trail g config start path edges current) : path.Nodup := by
  induction h with
  | start => exact List.nodup_singleton start
  | step _ _ _ hnew ih =>
      rw [List.nodup_append]
      refine ⟨ih, List.nodup_singleton _, fun node hnode target htarget heq => ?_⟩
      rw [List.mem_singleton.mp htarget] at heq
      exact hnew (heq ▸ hnode)

theorem Trail.sufficient (h : Trail g config start path edges current) :
    ∀ edge ∈ edges, Sufficient g config edge := by
  induction h with
  | start => exact nofun
  | step _ hedge _ _ ih =>
      rw [List.forall_mem_append, List.forall_mem_singleton]
      exact ⟨ih, hedge⟩

theorem Trail.ends (h : Trail g config start path edges current) (next : NodeId) :
    edges.map GraphEdge.ends ++ [(current, next)] = path.zip (path.tail ++ [next]) := by
  induction h generalizing next with
  | start => rfl
  | @step path edges current edge htrail _ hsource _ ih =>
      obtain ⟨rest, rfl⟩ := htrail.exists_tail
      have hends : edge.ends = (current, edge.target) := Prod.ext hsource rfl
      rw [List.map_append, List.map_singleton, hends, ih edge.target]
      simp only [List.cons_append, List.tail_cons]
      rw [← List.cons_append, List.zip_append]
      · rfl
      · simp

variable [Zero F] [One F] [Add F]

/-- An edge that closes a path makes a motif. -/
theorem Trail.describes (hg : g.Adjacent) (h : Trail g config start path edges current)
    {edge : GraphEdge F} (hedge : Sufficient g config edge) (hsource : edge.source = current)
    (htarget : edge.target = start) (hshort : 3 ≤ path.length)
    (hlong : path.length ≤ config.max_cycle_length) :
    Describes g config (motifOf g path (edges.map (·.id)) edge) := by
  have hends : (edges ++ [edge]).map GraphEdge.ends = path.zip (path.rotate 1) := by
    obtain ⟨rest, rfl⟩ := h.exists_tail
    have hedge : edge.ends = (current, start) := Prod.ext hsource htarget
    rw [List.map_append, List.map_singleton, hedge, h.ends, List.rotate_cons_succ,
      List.rotate_zero, List.tail_cons]
  have hsufficient : ∀ e ∈ edges ++ [edge], Sufficient g config e := by
    rw [List.forall_mem_append, List.forall_mem_singleton]
    exact ⟨h.sufficient, hedge⟩
  refine ⟨⟨hshort, hlong, h.nodup, ?_⟩, rfl, edges ++ [edge], hsufficient, hends, ?_, ?_⟩
  · intro ends hmem
    change ends ∈ path.zip (path.rotate 1) at hmem
    rw [← hends] at hmem
    obtain ⟨e, he, rfl⟩ := List.mem_map.mp hmem
    exact ⟨e, hsufficient e he, rfl⟩
  · rw [List.map_append]
    rfl
  · have hback : (edges.map (·.id)).filterMap g.get_edge = edges := by
      rw [List.filterMap_map]
      refine (List.filterMap_congr fun e he => ?_).trans List.filterMap_some
      exact hg.get_edge_id (h.sufficient e he).1
    rw [motifOf, hback, List.map_append, List.foldl_append]
    rfl

variable [DecidableLT F]

theorem describes_of_mem_motifsFrom (hg : g.Adjacent) {remaining : ℕ} {visited : List NodeId}
    (h : Trail g config start path edges current)
    (hvisited : ∀ node ∈ path, node ∈ visited)
    (hremaining : path.length + remaining = config.max_cycle_length + 1)
    {motif : MotifInstance F}
    (hmotif : motif ∈ motifsFrom g config start remaining current path (edges.map (·.id)) visited) :
    Describes g config motif := by
  induction remaining generalizing path edges current visited with
  | zero => cases hmotif
  | succ remaining ih =>
      rw [motifsFrom, List.mem_flatMap] at hmotif
      obtain ⟨edge, hedge, hmotif⟩ := hmotif
      obtain ⟨hmem, hsource⟩ := hg.mem_outgoing_edges.mp hedge
      split_ifs at hmotif with hweight hclosed hseen
      · cases hmotif
      · rw [List.mem_singleton.mp hmotif]
        exact h.describes hg ⟨hmem, hweight⟩ hsource hclosed.1 hclosed.2 (by omega)
      · cases hmotif
      · have hnew : edge.target ∉ path := fun hpath => hseen (hvisited _ hpath)
        have hids : edges.map (·.id) ++ [edge.id] = (edges ++ [edge]).map (·.id) := by
          rw [List.map_append, List.map_singleton]
        rw [hids] at hmotif
        apply ih (h.step ⟨hmem, hweight⟩ hsource hnew) _ _ hmotif
        · rw [List.forall_mem_append, List.forall_mem_singleton]
          exact ⟨fun node hnode => List.mem_cons_of_mem _ (hvisited node hnode),
            List.mem_cons_self ..⟩
        · rw [List.length_append, List.length_singleton]
          omega

/-- The search comes by every cycle that goes on along the given nodes. -/
theorem exists_mem_motifsFrom (hg : g.Adjacent) {remaining : ℕ} {visited rest : List NodeId}
    {path_edges : List EdgeId} (hnodup : (path ++ rest).Nodup) (hstart : start ∈ path)
    (hvisited : ∀ node ∈ visited, node ∈ path) (hlength : 3 ≤ (path ++ rest).length)
    (hremaining : rest.length < remaining)
    (hjoined : ∀ ends ∈ (current :: rest).zip (rest ++ [start]),
      ∃ edge, Sufficient g config edge ∧ edge.ends = ends) :
    ∃ motif ∈ motifsFrom g config start remaining current path path_edges visited,
      motif.nodes = path ++ rest := by
  induction rest generalizing remaining current path path_edges visited with
  | nil =>
      obtain ⟨remaining, rfl⟩ := Nat.exists_eq_succ_of_ne_zero (Nat.ne_zero_of_lt hremaining)
      obtain ⟨edge, ⟨hmem, hweight⟩, hends⟩ := hjoined (current, start) (List.mem_singleton_self _)
      obtain ⟨hsource, htarget⟩ := Prod.ext_iff.mp hends
      rw [List.append_nil] at hlength ⊢
      refine ⟨motifOf g path path_edges edge, ?_, rfl⟩
      rw [motifsFrom, List.mem_flatMap]
      refine ⟨edge, hg.mem_outgoing_edges.mpr ⟨hmem, hsource⟩, ?_⟩
      rw [if_neg hweight, if_pos ⟨htarget, hlength⟩]
      exact List.mem_singleton_self _
  | cons next rest ih =>
      obtain ⟨remaining, rfl⟩ := Nat.exists_eq_succ_of_ne_zero (Nat.ne_zero_of_lt hremaining)
      rw [List.cons_append, List.zip_cons_cons, List.forall_mem_cons] at hjoined
      obtain ⟨⟨edge, ⟨hmem, hweight⟩, hends⟩, hrest⟩ := hjoined
      obtain ⟨hsource, htarget⟩ := Prod.ext_iff.mp hends
      have hnew : edge.target ∉ path := by
        intro hpath
        exact (List.nodup_append.mp hnodup).2.2 _ hpath next (List.mem_cons_self ..) htarget
      rw [List.append_cons] at hnodup hlength ⊢
      obtain rfl : edge.target = next := htarget
      obtain ⟨motif, hmotif, hnodes⟩ :=
        @ih edge.target (path ++ [edge.target]) remaining (edge.target :: visited)
          (path_edges ++ [edge.id]) hnodup (List.mem_append_left _ hstart)
          (by
            rw [List.forall_mem_cons]
            exact ⟨List.mem_append_right _ (List.mem_singleton_self _),
              fun node hnode => List.mem_append_left _ (hvisited node hnode)⟩)
          hlength (Nat.lt_of_succ_lt_succ hremaining) hrest
      refine ⟨motif, ?_, hnodes⟩
      rw [motifsFrom, List.mem_flatMap]
      refine ⟨edge, hg.mem_outgoing_edges.mpr ⟨hmem, hsource⟩, ?_⟩
      have hopen : ¬ (edge.target = start ∧ 3 ≤ path.length) :=
        fun hclosed => hnew (hclosed.1 ▸ hstart)
      rw [if_neg hweight, if_neg hopen, if_pos fun hseen => hnew (hvisited _ hseen)]
      exact hmotif

/-- Every cycle is come by from its first node. -/
theorem exists_mem_of_isCycle (hg : g.Adjacent) (order : HashOrder) {nodes : List NodeId}
    (h : IsCycle g config nodes) :
    ∃ motif ∈ (order.iter g.nodes.keys).flatMap fun start =>
        motifsFrom g config start config.max_cycle_length start [start] [] [start],
      motif.nodes = nodes := by
  match nodes, h with
  | start :: next :: rest, h =>
      have hjoined := h.joined
      rw [List.rotate_cons_succ, List.rotate_zero] at hjoined
      have hstart : start ∈ g.nodes.keys := by
        obtain ⟨edge, ⟨hmem, -⟩, hends⟩ := hjoined (start, next) (List.mem_cons_self ..)
        obtain ⟨id, hfind⟩ := (OrderedMap.mem_values_iff _).mp hmem
        obtain rfl : edge.source = start := congrArg Prod.fst hends
        exact (OrderedMap.mem_keys_iff _).mpr (hg.ends hfind).1
      obtain ⟨motif, hmotif, hnodes⟩ :=
        @exists_mem_motifsFrom _ _ _ config start start [start] _ _ _ _ hg
          config.max_cycle_length [start] (next :: rest) [] h.nodup (List.mem_singleton_self _)
          (fun _ hnode => hnode) h.length_ge (Nat.lt_of_succ_le h.length_le) hjoined
      exact ⟨motif, List.mem_flatMap.mpr ⟨start, (order.perm _).mem_iff.mpr hstart, hmotif⟩,
        hnodes⟩
  | [], h => exact absurd h.length_ge (by decide)
  | [start], h => exact absurd h.length_ge (by simp)

end Trails

section Result

variable {F : Type} [Zero F] [One F] [Add F] [LT F] [DecidableLT F]
  {g : Graph F} {config : MotifConfig F}

/-- Below the limit there is one motif for each cycle, up to rotation and direction, and
nothing else. -/
theorem find_circular_flows_complete (hg : g.Multigraph) {order : HashOrder}
    (hlimit : (find_circular_flows g config order).length < config.max_results_per_type) :
    (∀ motif ∈ find_circular_flows g config order, Describes g config motif) ∧
      ∀ nodes, IsCycle g config nodes →
        (find_circular_flows g config order).countP
          (fun motif => motif.nodes ~r nodes ∨ motif.nodes ~r nodes.reverse) = 1 := by
  have hdescribes : ∀ motif ∈ (order.iter g.nodes.keys).flatMap fun start =>
      motifsFrom g config start config.max_cycle_length start [start] [] [start],
      Describes g config motif := by
    intro motif hmotif
    obtain ⟨start, -, hmotif⟩ := List.mem_flatMap.mp hmotif
    exact describes_of_mem_motifsFrom hg.adjacent .start (fun _ hnode => hnode)
      (Nat.add_comm _ _) hmotif
  rw [find_circular_flows_eq hlimit]
  constructor
  · exact fun motif hmotif => hdescribes motif (mem_of_mem_keepFirst hmotif).1
  · intro nodes hnodes
    obtain ⟨found, hfound, rfl⟩ := exists_mem_of_isCycle hg.adjacent order hnodes
    rw [← @countP_keepFirst _ _ _ (fun motif : MotifInstance F => canonicalize_cycle motif.nodes)
      [] _ _ hfound List.not_mem_nil]
    refine List.countP_congr fun motif hmotif => ?_
    have hcycle := (hdescribes motif (mem_of_mem_keepFirst hmotif).1).cycle
    have hne : ∀ {nodes}, IsCycle g config nodes → nodes ≠ [] := by
      rintro _ h rfl
      exact absurd h.length_ge (by decide)
    rw [decide_eq_true_iff, decide_eq_true_iff, form_eq_iff isForm_canonicalize_cycle
      hcycle.nodup (hne hcycle) hnodes.nodup (hne hnodes)]

end Result

section OppositeCycles

def link (source target : NodeId) : GraphEdge ℤ := GraphEdge.new 0 source target .transaction

def threeNodes : Graph ℤ :=
  ((Graph.new.add_node (GraphNode.new 0 .account)).add_node (GraphNode.new 0 .account)).add_node
    (GraphNode.new 0 .account)

/-- Three nodes, with edges both ways between any two. -/
def bothWays : Graph ℤ :=
  (((((threeNodes.add_edge (link 1 2)).add_edge (link 2 3)).add_edge (link 3 1)).add_edge
    (link 2 1)).add_edge (link 3 2)).add_edge (link 1 3)

theorem multigraph_bothWays : bothWays.Multigraph := by
  have hnodes : threeNodes.Multigraph := .add_node (.add_node (.add_node .new _) _) _
  exact .add_edge (.add_edge (.add_edge (.add_edge (.add_edge (.add_edge hnodes _ rfl rfl)
    _ rfl rfl) _ rfl rfl) _ rfl rfl) _ rfl rfl) _ rfl rfl

theorem find_circular_flows_bothWays :
    (∀ motif ∈ find_circular_flows bothWays ⟨5, 0, 10⟩ .insertion,
      Describes bothWays ⟨5, 0, 10⟩ motif) ∧
    ∀ nodes, IsCycle bothWays ⟨5, 0, 10⟩ nodes →
      (find_circular_flows bothWays ⟨5, 0, 10⟩ .insertion).countP
        (fun motif => motif.nodes ~r nodes ∨ motif.nodes ~r nodes.reverse) = 1 :=
  find_circular_flows_complete multigraph_bothWays (by decide)

/-- Of two opposite cycles only one is reported. -/
theorem opposite_cycle_not_reported :
    bothWays.Multigraph ∧
      (find_circular_flows bothWays ⟨5, 0, 10⟩ .insertion).length < 10 ∧
      IsCycle bothWays ⟨5, 0, 10⟩ [1, 3, 2] ∧
      (find_circular_flows bothWays ⟨5, 0, 10⟩ .insertion).countP
        (fun motif => motif.nodes ~r [1, 3, 2]) = 0 := by
  refine ⟨multigraph_bothWays, by decide, ⟨by decide, by decide, by decide, ?_⟩, by decide⟩
  have hedges : ∀ ends ∈ [1, 3, 2].zip ([1, 3, 2].rotate 1), ∃ edge ∈ bothWays.edges.values,
      ¬ edge.weight < 0 ∧ edge.ends = ends := by decide
  intro ends hends
  obtain ⟨edge, hmem, hweight, hedge⟩ := hedges ends hends
  exact ⟨edge, ⟨hmem, hweight⟩, hedge⟩

end OppositeCycles

end Datasynth.Graphs.CircularFlows
