import Mathlib.Algebra.BigOperators.Group.Finset.Piecewise
import Mathlib.Algebra.Order.BigOperators.Group.Finset
import Mathlib.Data.Fintype.Card
import Mathlib.Data.List.Sort
import Mathlib.Data.Set.Finite.Basic
import Datasynth.Lib.SortedEntries

/-!
Kahn's algorithm.  A queue holds the nodes that have nothing left to wait for; taking
a node from it lowers the degree of every node that depends on it.
-/

namespace Datasynth.Lib.TopologicalOrder

open Datasynth.Lib.SortedEntries

variable {α : Type*} [LinearOrder α]

/-- Lower the degree of each of the nodes and collect those whose degree drops to zero. -/
def release (degrees : OrderedMap α ℕ) : List α → OrderedMap α ℕ × List α
  | [] => (degrees, [])
  | node :: nodes =>
      match degrees.find? node with
      | none => release degrees nodes
      | some degree =>
          let released := release (degrees.insert node (degree - 1)) nodes
          (released.1, if degree - 1 = 0 then node :: released.2 else released.2)

theorem find?_release (degrees : OrderedMap α ℕ) (nodes : List α) (v : α) :
    (release degrees nodes).1.find? v = (degrees.find? v).map (· - nodes.count v) := by
  induction nodes generalizing degrees with
  | nil => cases h : degrees.find? v <;> simp [release, h]
  | cons node nodes ih =>
      rw [release]
      split
      · rename_i hnone
        rw [ih]
        by_cases hv : v = node
        · rw [hv, hnone, Option.map_none, Option.map_none]
        · rw [List.count_cons_of_ne (Ne.symm hv)]
      · rename_i degree hsome
        rw [ih, OrderedMap.find?_insert]
        split
        · rename_i hv
          rw [hv, hsome, List.count_cons_self, Option.map_some, Option.map_some]
          congr 1
          omega
        · rename_i hv
          rw [List.count_cons_of_ne (Ne.symm hv)]

theorem mem_release_iff {degrees : OrderedMap α ℕ} {nodes : List α} {v : α} :
    v ∈ (release degrees nodes).2 ↔
      ∃ degree, degrees.find? v = some degree ∧ degree ≤ nodes.count v ∧ 0 < nodes.count v := by
  induction nodes generalizing degrees with
  | nil => simp [release]
  | cons node nodes ih =>
      rw [release]
      split
      · rename_i hnone
        rw [ih]
        by_cases hv : v = node
        · simp [hv, hnone]
        · rw [List.count_cons_of_ne (Ne.symm hv)]
      · rename_i degree hsome
        have hrest : v ∈ (release (degrees.insert node (degree - 1)) nodes).2 ↔
            if v = node then degree - 1 ≤ nodes.count v ∧ 0 < nodes.count v
            else ∃ degree, degrees.find? v = some degree ∧ degree ≤ nodes.count v ∧
              0 < nodes.count v := by
          rw [ih, OrderedMap.find?_insert]
          split <;> simp
        by_cases hv : v = node
        · rw [if_pos hv] at hrest
          have hcount : (node :: nodes).count v = nodes.count v + 1 := by
            rw [hv, List.count_cons_self]
          rw [hcount, hv, hsome]
          rw [hv] at hrest
          split
          · rename_i hzero
            simp only [List.mem_cons, true_or, Option.some.injEq, exists_eq_left', true_iff]
            omega
          · rename_i hzero
            rw [hrest]
            simp only [Option.some.injEq, exists_eq_left']
            omega
        · rw [if_neg hv] at hrest
          rw [List.count_cons_of_ne (Ne.symm hv), ← hrest]
          split
          · simp [hv]
          · rfl

theorem count_release (degrees : OrderedMap α ℕ) (nodes : List α) (v : α) :
    (release degrees nodes).2.count v =
      (degrees.find? v).elim 0 fun degree => nodes.count v - (degree - 1) := by
  induction nodes generalizing degrees with
  | nil => cases degrees.find? v <;> simp [release]
  | cons node nodes ih =>
      rw [release]
      split
      · rename_i hnone
        rw [ih]
        by_cases hv : v = node
        · rw [hv, hnone, Option.elim_none, Option.elim_none]
        · rw [List.count_cons_of_ne (Ne.symm hv)]
      · rename_i degree hsome
        have hrest := ih (degrees.insert node (degree - 1))
        rw [OrderedMap.find?_insert] at hrest
        by_cases hv : v = node
        · rw [if_pos hv, Option.elim_some] at hrest
          rw [hv] at hrest ⊢
          rw [hsome, Option.elim_some, List.count_cons_self]
          split
          · rw [List.count_cons_self, hrest]
            omega
          · rw [hrest]
            omega
        · rw [if_neg hv] at hrest
          rw [List.count_cons_of_ne (Ne.symm hv), ← hrest]
          split
          · exact List.count_cons_of_ne (Ne.symm hv)
          · rfl

/-- A release does not depend on the order of the nodes, up to the order of what it collects. -/
theorem release_congr (degrees : OrderedMap α ℕ) {nodes nodes' : List α} (h : nodes.Perm nodes') :
    (release degrees nodes).1 = (release degrees nodes').1 ∧
      (release degrees nodes).2.Perm (release degrees nodes').2 := by
  constructor
  · apply OrderedMap.ext_find?
    intro v
    rw [find?_release, find?_release, h.count_eq]
  · rw [List.perm_iff_count]
    intro v
    rw [count_release, count_release, h.count_eq]

theorem nodup_release {degrees : OrderedMap α ℕ} {nodes : List α}
    (h : ∀ v degree, degrees.find? v = some degree → nodes.count v ≤ degree) :
    (release degrees nodes).2.Nodup := by
  induction nodes generalizing degrees with
  | nil => exact List.nodup_nil
  | cons node nodes ih =>
      rw [release]
      split
      · refine ih fun v degree hv => ?_
        exact le_trans (List.count_le_count_cons) (h v degree hv)
      · rename_i degree hsome
        have hdegree := h node degree hsome
        rw [List.count_cons_self] at hdegree
        have hrest : (release (degrees.insert node (degree - 1)) nodes).2.Nodup := by
          refine ih fun v degree' hv => ?_
          rw [OrderedMap.find?_insert] at hv
          split at hv
          · rename_i heq
            cases hv
            rw [heq]
            omega
          · exact le_trans (List.count_le_count_cons) (h v degree' hv)
        split
        · rename_i hzero
          refine List.nodup_cons.mpr ⟨?_, hrest⟩
          intro hmem
          obtain ⟨degree', -, -, hpos⟩ := mem_release_iff.mp hmem
          omega
        · exact hrest

theorem mem_release_iff_of_le {degrees : OrderedMap α ℕ} {nodes : List α}
    (hle : ∀ v degree, degrees.find? v = some degree → nodes.count v ≤ degree) {v : α} :
    v ∈ (release degrees nodes).2 ↔
      ∃ degree, degrees.find? v = some degree ∧ degree = nodes.count v ∧ 0 < degree := by
  rw [mem_release_iff]
  constructor
  · rintro ⟨degree, hv, hdegree, hpos⟩
    have heq : degree = nodes.count v := le_antisymm hdegree (hle v degree hv)
    exact ⟨degree, hv, heq, heq ▸ hpos⟩
  · rintro ⟨degree, hv, rfl, hpos⟩
    exact ⟨nodes.count v, hv, le_rfl, hpos⟩

/-- What the loop of Kahn's algorithm has done so far. -/
structure Progress (α : Type*) [LinearOrder α] where
  degrees : OrderedMap α ℕ
  queue : List α
  sorted : List α

section Kahn

variable (dependents : α → List α)

def Progress.step (p : Progress α) : Progress α :=
  match p.queue with
  | [] => p
  | node :: queue =>
      let released := release p.degrees (dependents node)
      ⟨released.1, queue ++ released.2.insertionSort (· ≤ ·), p.sorted ++ [node]⟩

def Progress.start (degrees : OrderedMap α ℕ) : Progress α :=
  ⟨degrees, ((degrees.entries.filter fun e => e.2 = 0).map Prod.fst).insertionSort (· ≤ ·), []⟩

/-- The loop takes each node at most once. -/
def Progress.finish (degrees : OrderedMap α ℕ) : Progress α :=
  (Progress.step dependents)^[degrees.keys.length] (Progress.start degrees)

def kahn (degrees : OrderedMap α ℕ) : List α := (Progress.finish dependents degrees).sorted

/-- The same with released nodes joining the queue in any arrangement. -/
def Progress.advance (arrange : List α → List α) (p : Progress α) : Progress α :=
  match p.queue with
  | [] => p
  | node :: queue =>
      let released := release p.degrees (dependents node)
      ⟨released.1, queue ++ arrange released.2, p.sorted ++ [node]⟩

def initialNodes (degrees : OrderedMap α ℕ) : List α :=
  (degrees.entries.filter fun e => e.2 = 0).map Prod.fst

/-- The loop from any queue of the initial nodes. -/
def Progress.finishFrom (arrange : List α → List α) (initial : List α)
    (degrees : OrderedMap α ℕ) : Progress α :=
  (Progress.advance dependents arrange)^[degrees.keys.length] ⟨degrees, initial, []⟩

theorem Progress.step_eq_advance :
    Progress.step dependents = Progress.advance dependents (·.insertionSort (· ≤ ·)) := by
  funext p
  rw [Progress.step, Progress.advance]

theorem Progress.finish_eq_finishFrom (degrees : OrderedMap α ℕ) :
    Progress.finish dependents degrees = Progress.finishFrom dependents (·.insertionSort (· ≤ ·))
      ((initialNodes degrees).insertionSort (· ≤ ·)) degrees := by
  rw [Progress.finish, Progress.finishFrom, ← Progress.step_eq_advance]
  rfl

/-- The order in which the dependents of a node are listed does not matter. -/
theorem kahn_congr {dependents dependents' : α → List α}
    (h : ∀ u, (dependents u).Perm (dependents' u)) :
    kahn dependents = kahn dependents' := by
  have hstep : Progress.step dependents = Progress.step dependents' := by
    funext p
    obtain ⟨degrees, queue, sorted⟩ := p
    cases queue with
    | nil => rfl
    | cons node queue =>
        obtain ⟨hdegrees, hreleased⟩ := release_congr degrees (h node)
        have hsorted := ((List.perm_insertionSort (· ≤ ·) _).trans
          (hreleased.trans (List.perm_insertionSort (· ≤ ·) _).symm)).eq_of_pairwise'
            (List.pairwise_insertionSort _ _) (List.pairwise_insertionSort _ _)
        simp only [Progress.step, hdegrees, hsorted]
  funext degrees
  rw [kahn, kahn, Progress.finish, Progress.finish, hstep]

/-- The nodes whose turn is still to come, and how often they make `v` wait. -/
def waits (nodes : Finset α) (sorted : List α) (v : α) : ℕ :=
  ∑ u ∈ nodes \ sorted.toFinset, (dependents u).count v

structure Advancing (nodes : Finset α) (p : Progress α) : Prop where
  defined : ∀ v, (p.degrees.find? v).isSome ↔ v ∈ nodes
  balance : ∀ v degree, p.degrees.find? v = some degree → degree = waits dependents nodes p.sorted v
  nodup : (p.sorted ++ p.queue).Nodup
  ready : ∀ v, p.degrees.find? v = some 0 ↔ v ∈ p.sorted ++ p.queue
  ordered : ∀ pre v post, p.sorted = pre ++ v :: post → ∀ u, v ∈ dependents u → u ∈ pre

theorem waits_snoc {nodes : Finset α} {sorted : List α} {node : α} (hmem : node ∈ nodes)
    (hnew : node ∉ sorted) (v : α) :
    (dependents node).count v + waits dependents nodes (sorted ++ [node]) v =
      waits dependents nodes sorted v := by
  have hleft : node ∈ nodes \ sorted.toFinset :=
    Finset.mem_sdiff.mpr ⟨hmem, fun h => hnew (List.mem_toFinset.mp h)⟩
  have hset : nodes \ (sorted ++ [node]).toFinset = (nodes \ sorted.toFinset).erase node := by
    ext u
    simp only [Finset.mem_sdiff, List.mem_toFinset, List.mem_append, List.mem_singleton,
      Finset.mem_erase]
    tauto
  rw [waits, waits, hset]
  exact Finset.add_sum_erase _ (fun u => (dependents u).count v) hleft

variable {dependents}

theorem Advancing.mem_nodes {nodes : Finset α} {p : Progress α} (h : Advancing dependents nodes p)
    {v : α} (hv : v ∈ p.sorted ++ p.queue) : v ∈ nodes := by
  rw [← h.defined v, (h.ready v).mpr hv]
  rfl

/-- A node that is ready waits for nothing that is not sorted yet. -/
theorem Advancing.mem_sorted {nodes : Finset α} {p : Progress α} (h : Advancing dependents nodes p)
    (hsources : ∀ u v, v ∈ dependents u → u ∈ nodes) {u v : α} (hv : v ∈ p.sorted ++ p.queue)
    (hu : v ∈ dependents u) : u ∈ p.sorted := by
  have hzero := h.balance v 0 ((h.ready v).mpr hv)
  rw [waits, eq_comm, Finset.sum_eq_zero_iff] at hzero
  by_contra hlate
  have hleft : u ∈ nodes \ p.sorted.toFinset :=
    Finset.mem_sdiff.mpr ⟨hsources u v hu, fun h => hlate (List.mem_toFinset.mp h)⟩
  exact List.count_eq_zero.mp (hzero u hleft) hu

section Step

variable {nodes : Finset α} {degrees : OrderedMap α ℕ} {node : α} {queue sorted : List α}

theorem Advancing.node_notMem_sorted
    (h : Advancing dependents nodes ⟨degrees, node :: queue, sorted⟩) : node ∉ sorted := by
  intro hmem
  exact (List.nodup_append.mp h.nodup).2.2 node hmem node List.mem_cons_self rfl

theorem Advancing.count_add_waits (h : Advancing dependents nodes ⟨degrees, node :: queue, sorted⟩)
    (v : α) : (dependents node).count v + waits dependents nodes (sorted ++ [node]) v =
      waits dependents nodes sorted v := by
  have hnode : node ∈ nodes := h.mem_nodes (List.mem_append_right _ List.mem_cons_self)
  exact waits_snoc dependents hnode h.node_notMem_sorted v

theorem Advancing.count_le (h : Advancing dependents nodes ⟨degrees, node :: queue, sorted⟩)
    (v : α) (degree : ℕ) (hv : degrees.find? v = some degree) :
    (dependents node).count v ≤ degree := by
  have hbalance : degree = waits dependents nodes sorted v := h.balance v degree hv
  rw [hbalance, ← h.count_add_waits v]
  exact Nat.le_add_right _ _

theorem Advancing.balance_release
    (h : Advancing dependents nodes ⟨degrees, node :: queue, sorted⟩) (v : α) (degree : ℕ)
    (hv : (release degrees (dependents node)).1.find? v = some degree) :
    degree = waits dependents nodes (sorted ++ [node]) v := by
  rw [find?_release, Option.map_eq_some_iff] at hv
  obtain ⟨degree', hv', rfl⟩ := hv
  have hbalance : degree' = waits dependents nodes sorted v := h.balance v degree' hv'
  rw [hbalance, ← h.count_add_waits v]
  exact Nat.add_sub_cancel_left _ _

/-- The nodes that are released were not ready before. -/
theorem Advancing.disjoint_release
    (h : Advancing dependents nodes ⟨degrees, node :: queue, sorted⟩) :
    List.Disjoint (sorted ++ node :: queue) (release degrees (dependents node)).2 := by
  intro v hv hlate
  obtain ⟨degree, hdegree, -, hpos⟩ := (mem_release_iff_of_le h.count_le).mp hlate
  rw [(h.ready v).mpr hv] at hdegree
  cases hdegree
  exact absurd hpos (lt_irrefl 0)

theorem Advancing.find?_release_eq_zero_iff
    (h : Advancing dependents nodes ⟨degrees, node :: queue, sorted⟩) (v : α) :
    (release degrees (dependents node)).1.find? v = some 0 ↔
      v ∈ sorted ++ node :: queue ∨ v ∈ (release degrees (dependents node)).2 := by
  rw [find?_release, mem_release_iff_of_le h.count_le, ← h.ready v, Option.map_eq_some_iff]
  constructor
  · rintro ⟨degree, hv, hzero⟩
    have hle := h.count_le v degree hv
    rcases Nat.eq_zero_or_pos degree with rfl | hpos
    · exact .inl hv
    · exact .inr ⟨degree, hv, by omega, hpos⟩
  · rintro (hv | ⟨degree, hv, hdegree, -⟩)
    · exact ⟨0, hv, Nat.zero_sub _⟩
    · exact ⟨degree, hv, by omega⟩

theorem Advancing.ordered_snoc (h : Advancing dependents nodes ⟨degrees, node :: queue, sorted⟩)
    (hsources : ∀ u v, v ∈ dependents u → u ∈ nodes) (pre : List α) (v : α) (post : List α)
    (heq : sorted ++ [node] = pre ++ v :: post) (u : α) (hu : v ∈ dependents u) : u ∈ pre := by
  rcases List.eq_nil_or_concat post with rfl | ⟨init, last, rfl⟩
  · obtain ⟨rfl, hv⟩ := List.append_inj' heq rfl
    cases hv
    exact h.mem_sorted hsources (List.mem_append_right _ List.mem_cons_self) hu
  · rw [List.concat_eq_append, ← List.cons_append, ← List.append_assoc] at heq
    obtain ⟨heq, -⟩ := List.append_inj' heq rfl
    exact h.ordered pre v init heq u hu

end Step

section Loop

variable {arrange : List α → List α} (harrange : ∀ l, (arrange l).Perm l)

include harrange in
theorem Advancing.advance {nodes : Finset α} {p : Progress α} (h : Advancing dependents nodes p)
    (hsources : ∀ u v, v ∈ dependents u → u ∈ nodes) :
    Advancing dependents nodes (p.advance dependents arrange) := by
  obtain ⟨degrees, queue, sorted⟩ := p
  cases queue with
  | nil => exact h
  | cons node queue =>
      -- The node moves from the queue to the sorted ones, the released nodes join the queue.
      have hperm : ((sorted ++ [node]) ++
          (queue ++ arrange (release degrees (dependents node)).2)).Perm
          ((sorted ++ node :: queue) ++ (release degrees (dependents node)).2) := by
        rw [List.append_assoc, List.singleton_append, ← List.cons_append, ← List.append_assoc]
        exact (harrange _).append_left _
      constructor
      · intro v
        simp only [Progress.advance]
        rw [find?_release, Option.isSome_map]
        exact h.defined v
      · exact h.balance_release
      · apply hperm.nodup_iff.mpr
        exact h.nodup.append (nodup_release h.count_le) h.disjoint_release
      · intro v
        simp only [Progress.advance]
        rw [hperm.mem_iff, List.mem_append]
        exact h.find?_release_eq_zero_iff v
      · exact h.ordered_snoc hsources

include harrange in
theorem Advancing.iterate {nodes : Finset α} {p : Progress α} (h : Advancing dependents nodes p)
    (hsources : ∀ u v, v ∈ dependents u → u ∈ nodes) (n : ℕ) :
    Advancing dependents nodes ((Progress.advance dependents arrange)^[n] p) := by
  induction n generalizing p with
  | zero => exact h
  | succ n ih => exact ih (h.advance harrange hsources)

theorem advancing_start {degrees : OrderedMap α ℕ}
    (hbalance : ∀ v degree, degrees.find? v = some degree →
      degree = waits dependents degrees.keys.toFinset [] v)
    {initial : List α} (hinitial : initial.Perm (initialNodes degrees)) :
    Advancing dependents degrees.keys.toFinset ⟨degrees, initial, []⟩ := by
  have hzero : ∀ v, v ∈ initial ↔ degrees.find? v = some 0 := by
    intro v
    rw [hinitial.mem_iff, initialNodes, List.mem_map]
    constructor
    · rintro ⟨⟨key, degree⟩, hmem, rfl⟩
      rw [List.mem_filter, OrderedMap.mem_entries_iff, decide_eq_true_eq] at hmem
      rw [hmem.1, show degree = 0 from hmem.2]
    · intro hv
      refine ⟨(v, 0), List.mem_filter.mpr ⟨(OrderedMap.mem_entries_iff _).mpr hv, ?_⟩, rfl⟩
      exact decide_eq_true rfl
  constructor
  · intro v
    rw [List.mem_toFinset, OrderedMap.mem_keys_iff]
  · exact hbalance
  · show ([] ++ initial).Nodup
    rw [List.nil_append, hinitial.nodup_iff, initialNodes]
    exact degrees.keys_nodup.sublist (List.filter_sublist.map Prod.fst)
  · intro v
    exact (hzero v).symm
  · intro pre v post heq
    exact absurd heq (by simp)

variable (dependents arrange) in
/-- Unless the queue is empty each round sorts one more node. -/
theorem queue_iterate (p : Progress α) (n : ℕ) :
    ((Progress.advance dependents arrange)^[n] p).queue = [] ∨
      ((Progress.advance dependents arrange)^[n] p).sorted.length = p.sorted.length + n := by
  induction n generalizing p with
  | zero => exact .inr rfl
  | succ n ih =>
      rw [Function.iterate_succ_apply]
      cases hqueue : p.queue with
      | nil =>
          have hstep : p.advance dependents arrange = p := by rw [Progress.advance, hqueue]
          have hstop : (Progress.advance dependents arrange)^[n] p = p :=
            Function.iterate_fixed hstep n
          rw [hstep, hstop]
          exact .inl hqueue
      | cons node queue =>
          have hlength :
              (p.advance dependents arrange).sorted.length = p.sorted.length + 1 := by
            rw [Progress.advance, hqueue]
            exact List.length_append
          rcases ih (p.advance dependents arrange) with hempty | hsorted
          · exact .inl hempty
          · exact .inr (by omega)

include harrange in
theorem queue_finishFrom {degrees : OrderedMap α ℕ}
    (hbalance : ∀ v degree, degrees.find? v = some degree →
      degree = waits dependents degrees.keys.toFinset [] v)
    (hsources : ∀ u v, v ∈ dependents u → u ∈ degrees.keys)
    {initial : List α} (hinitial : initial.Perm (initialNodes degrees)) :
    (Progress.finishFrom dependents arrange initial degrees).queue = [] := by
  have hsources' : ∀ u v, v ∈ dependents u → u ∈ degrees.keys.toFinset :=
    fun u v hv => List.mem_toFinset.mpr (hsources u v hv)
  have hadvancing := (advancing_start hbalance hinitial).iterate harrange hsources'
    degrees.keys.length
  rcases queue_iterate dependents arrange ⟨degrees, initial, []⟩ degrees.keys.length with
    hempty | hlength
  · exact hempty
  · have hcard := Finset.card_le_card (s := (_ : List α).toFinset)
      fun v hv => hadvancing.mem_nodes (List.mem_toFinset.mp hv)
    rw [List.toFinset_card_of_nodup hadvancing.nodup,
      List.toFinset_card_of_nodup degrees.keys_nodup, List.length_append, hlength] at hcard
    rw [Progress.finishFrom, ← List.length_eq_zero_iff]
    simp only [List.length_nil] at hcard
    omega

end Loop

end Kahn

section Edges

def dependentsOf (edges : List (α × α)) (u : α) : List α :=
  (edges.filter fun e => e.1 = u).map Prod.snd

theorem mem_dependentsOf_iff {edges : List (α × α)} {u v : α} :
    v ∈ dependentsOf edges u ↔ (u, v) ∈ edges := by
  rw [dependentsOf, List.mem_map]
  constructor
  · rintro ⟨⟨u', v'⟩, hmem, rfl⟩
    rw [List.mem_filter, decide_eq_true_eq] at hmem
    rw [← hmem.2]
    exact hmem.1
  · intro hmem
    exact ⟨(u, v), List.mem_filter.mpr ⟨hmem, decide_eq_true rfl⟩, rfl⟩

/-- Counted by their sources, the edges to `v` are all edges to `v`. -/
theorem sum_count_dependentsOf {nodes : Finset α} {edges : List (α × α)}
    (h : ∀ e ∈ edges, e.1 ∈ nodes) (v : α) :
    ∑ u ∈ nodes, (dependentsOf edges u).count v = (edges.map Prod.snd).count v := by
  induction edges with
  | nil => simp [dependentsOf]
  | cons e edges ih =>
      rw [List.forall_mem_cons] at h
      have hcons : ∀ u, (dependentsOf (e :: edges) u).count v =
          (if e.1 = u then [e.2].count v else 0) + (dependentsOf edges u).count v := by
        intro u
        rw [dependentsOf, List.filter_cons]
        by_cases hu : e.1 = u
        · rw [if_pos (decide_eq_true hu), if_pos hu, List.map_cons, ← List.count_append,
            List.singleton_append, dependentsOf]
        · rw [if_neg (by simpa using hu), if_neg hu, zero_add, dependentsOf]
      simp only [hcons]
      rw [Finset.sum_add_distrib, ih h.2, Finset.sum_ite_eq, if_pos h.1, List.map_cons,
        ← List.count_append, List.singleton_append]

section Tables

theorem find?_insertEach {ν : Type*} (ids : List α) (x : ν) (m : OrderedMap α ν) (v : α) :
    (ids.foldl (fun m id => m.insert id x) m).find? v =
      if v ∈ ids then some x else m.find? v := by
  induction ids generalizing m with
  | nil => rfl
  | cons id ids ih =>
      rw [List.foldl_cons, ih, OrderedMap.find?_insert]
      by_cases hmem : v ∈ ids
      · rw [if_pos hmem, if_pos (List.mem_cons_of_mem _ hmem)]
      · rw [if_neg hmem]
        by_cases hv : v = id
        · rw [if_pos hv, if_pos (hv ▸ List.mem_cons_self)]
        · rw [if_neg hv, if_neg (by simp [hv, hmem])]

/-- The tables of degrees and dependents with one more edge. -/
def tallyEdge (tables : OrderedMap α ℕ × OrderedMap α (List α)) (edge : α × α) :
    OrderedMap α ℕ × OrderedMap α (List α) :=
  (tables.1.upsert edge.2 fun degree => degree.getD 0 + 1,
    tables.2.upsert edge.1 fun dependents => dependents.getD [] ++ [edge.2])

theorem getD_find?_tallyEdges (edges : List (α × α))
    (tables : OrderedMap α ℕ × OrderedMap α (List α)) (v : α) :
    ((edges.foldl tallyEdge tables).1.find? v).getD 0 =
      (tables.1.find? v).getD 0 + (edges.map Prod.snd).count v := by
  induction edges generalizing tables with
  | nil => rfl
  | cons edge edges ih =>
      rw [List.foldl_cons, ih, tallyEdge, OrderedMap.find?_upsert, List.map_cons]
      by_cases hv : v = edge.2
      · rw [if_pos hv, hv, List.count_cons_self, Option.getD_some]
        omega
      · rw [if_neg hv, List.count_cons_of_ne (Ne.symm hv)]

theorem isSome_find?_tallyEdges (edges : List (α × α))
    (tables : OrderedMap α ℕ × OrderedMap α (List α)) (v : α) :
    ((edges.foldl tallyEdge tables).1.find? v).isSome ↔
      (tables.1.find? v).isSome ∨ v ∈ edges.map Prod.snd := by
  induction edges generalizing tables with
  | nil => simp
  | cons edge edges ih =>
      rw [List.foldl_cons, ih, tallyEdge, OrderedMap.find?_upsert, List.map_cons, List.mem_cons]
      by_cases hv : v = edge.2
      · simp [hv]
      · rw [if_neg hv]
        tauto

theorem getD_find?_tallied (edges : List (α × α))
    (tables : OrderedMap α ℕ × OrderedMap α (List α)) (u : α) :
    ((edges.foldl tallyEdge tables).2.find? u).getD [] =
      (tables.2.find? u).getD [] ++ dependentsOf edges u := by
  induction edges generalizing tables with
  | nil => simp [dependentsOf]
  | cons edge edges ih =>
      rw [List.foldl_cons, ih, tallyEdge, OrderedMap.find?_upsert, dependentsOf, dependentsOf,
        List.filter_cons]
      by_cases hu : u = edge.1
      · rw [if_pos hu, if_pos (decide_eq_true hu.symm), hu, Option.getD_some, List.append_assoc]
        rfl
      · rw [if_neg hu, if_neg (by simpa using Ne.symm hu)]

end Tables

/-- Some of the nodes, each once and after the sources of all edges to it. -/
structure Schedule (edges : List (α × α)) (nodes sorted : List α) : Prop where
  nodup : sorted.Nodup
  subset : sorted ⊆ nodes
  precedes : ∀ pre v post, sorted = pre ++ v :: post → ∀ u, (u, v) ∈ edges → u ∈ pre

theorem initial_balance {edges : List (α × α)} {degrees : OrderedMap α ℕ}
    (hdegrees : ∀ v degree, degrees.find? v = some degree → degree = (edges.map Prod.snd).count v)
    (hsources : ∀ e ∈ edges, e.1 ∈ degrees.keys) (v : α) (degree : ℕ)
    (hv : degrees.find? v = some degree) :
    degree = waits (dependentsOf edges) degrees.keys.toFinset [] v := by
  rw [waits, List.toFinset_nil, Finset.sdiff_empty,
    sum_count_dependentsOf fun e he => List.mem_toFinset.mpr (hsources e he)]
  exact hdegrees v degree hv

section Results

variable {edges : List (α × α)} {degrees : OrderedMap α ℕ} {arrange : List α → List α}
  {initial : List α}

/-- Kahn's algorithm over the edges, with every node's number of incoming edges. -/
theorem schedule_finishFrom
    (hdegrees : ∀ v degree, degrees.find? v = some degree → degree = (edges.map Prod.snd).count v)
    (hsources : ∀ e ∈ edges, e.1 ∈ degrees.keys) (harrange : ∀ l, (arrange l).Perm l)
    (hinitial : initial.Perm (initialNodes degrees)) :
    Schedule edges degrees.keys
        (Progress.finishFrom (dependentsOf edges) arrange initial degrees).sorted ∧
      (Progress.finishFrom (dependentsOf edges) arrange initial degrees).queue = [] := by
  have hsources' : ∀ u v, v ∈ dependentsOf edges u → u ∈ degrees.keys :=
    fun u v hv => hsources (u, v) (mem_dependentsOf_iff.mp hv)
  have hbalance := initial_balance hdegrees hsources
  have hadvancing := (advancing_start hbalance hinitial).iterate harrange
    (fun u v hv => List.mem_toFinset.mpr (hsources' u v hv)) degrees.keys.length
  refine ⟨⟨hadvancing.nodup.of_append_left, ?_, ?_⟩,
    queue_finishFrom harrange hbalance hsources' hinitial⟩
  · intro v hv
    exact List.mem_toFinset.mp (hadvancing.mem_nodes (List.mem_append_left _ hv))
  · intro pre v post heq u hu
    exact hadvancing.ordered pre v post heq u (mem_dependentsOf_iff.mpr hu)

theorem schedule_kahn
    (hdegrees : ∀ v degree, degrees.find? v = some degree → degree = (edges.map Prod.snd).count v)
    (hsources : ∀ e ∈ edges, e.1 ∈ degrees.keys) :
    Schedule edges degrees.keys (kahn (dependentsOf edges) degrees) ∧
      (Progress.finish (dependentsOf edges) degrees).queue = [] := by
  rw [kahn, Progress.finish_eq_finishFrom]
  exact schedule_finishFrom hdegrees hsources (fun l => List.perm_insertionSort _ l)
    (List.perm_insertionSort _ _)

end Results

/-- No node is reached from itself. -/
def Acyclic (edges : List (α × α)) : Prop :=
  ∀ v, ¬ Relation.TransGen (fun u w => (u, w) ∈ edges) v v

/-- The node is on a cycle, or reached from one. -/
def AfterCycle (edges : List (α × α)) (v : α) : Prop :=
  ∃ c, Relation.TransGen (fun u w => (u, w) ∈ edges) c c ∧
    Relation.ReflTransGen (fun u w => (u, w) ∈ edges) c v

omit [LinearOrder α] in
theorem Acyclic.not_afterCycle {edges : List (α × α)} (h : Acyclic edges) (v : α) :
    ¬ AfterCycle edges v := by
  rintro ⟨c, hcycle, -⟩
  exact h c hcycle

omit [LinearOrder α] in
/-- Among finitely many nodes of which each has a predecessor, each comes after a cycle. -/
theorem afterCycle_of_predecessors {edges : List (α × α)} {nodes : Finset α}
    (hpred : ∀ v ∈ nodes, ∃ u ∈ nodes, (u, v) ∈ edges) {v : α} (hv : v ∈ nodes) :
    AfterCycle edges v := by
  by_contra hnone
  -- Otherwise there would be a first node before `v`.
  let ancestors : Set α :=
    {u | u ∈ nodes ∧ Relation.ReflTransGen (fun u w => (u, w) ∈ edges) u v}
  let before : ancestors → ancestors → Prop := fun u w =>
    Relation.TransGen (fun u w => (u, w) ∈ edges) u.1 w.1
  have : Finite ancestors := nodes.finite_toSet.subset fun u hu => hu.1
  have : IsTrans ancestors before := ⟨fun _ _ _ huv hvw => huv.trans hvw⟩
  have : Std.Irrefl before := ⟨fun u hcycle => hnone ⟨u.1, hcycle, u.2.2⟩⟩
  obtain ⟨m, -, hmin⟩ := (Finite.wellFounded_of_trans_of_irrefl before).has_min Set.univ
    ⟨⟨v, hv, .refl⟩, trivial⟩
  obtain ⟨u, hu, hedge⟩ := hpred m.1 m.2.1
  exact hmin ⟨u, hu, .head hedge m.2.2⟩ trivial (.single hedge)

/-- Without a cycle before it a node is sorted. -/
theorem mem_finishFrom_of_not_afterCycle {edges : List (α × α)} {degrees : OrderedMap α ℕ}
    {arrange : List α → List α} {initial : List α}
    (hdegrees : ∀ v degree, degrees.find? v = some degree → degree = (edges.map Prod.snd).count v)
    (hsources : ∀ e ∈ edges, e.1 ∈ degrees.keys) (harrange : ∀ l, (arrange l).Perm l)
    (hinitial : initial.Perm (initialNodes degrees)) {v : α} (hv : v ∈ degrees.keys)
    (hfree : ¬ AfterCycle edges v) :
    v ∈ (Progress.finishFrom (dependentsOf edges) arrange initial degrees).sorted := by
  have hsources' : ∀ u w, w ∈ dependentsOf edges u → u ∈ degrees.keys.toFinset := fun u w hw =>
    List.mem_toFinset.mpr (hsources (u, w) (mem_dependentsOf_iff.mp hw))
  have hadvancing : Advancing (dependentsOf edges) degrees.keys.toFinset
      (Progress.finishFrom (dependentsOf edges) arrange initial degrees) :=
    (advancing_start (initial_balance hdegrees hsources) hinitial).iterate harrange hsources'
      degrees.keys.length
  have hqueue := (schedule_finishFrom hdegrees hsources harrange hinitial).2
  let left := degrees.keys.toFinset \
    (Progress.finishFrom (dependentsOf edges) arrange initial degrees).sorted.toFinset
  -- What is left waits for something that is left.
  have hpred : ∀ m ∈ left, ∃ u ∈ left, (u, m) ∈ edges := by
    intro m hm
    by_contra hsource
    push Not at hsource
    obtain ⟨hnode, hwaiting⟩ := Finset.mem_sdiff.mp hm
    obtain ⟨degree, hdegree⟩ := Option.isSome_iff_exists.mp ((hadvancing.defined m).mpr hnode)
    have hzero : degree = 0 := by
      rw [hadvancing.balance m degree hdegree, waits, Finset.sum_eq_zero_iff]
      intro u hu
      rw [List.count_eq_zero, mem_dependentsOf_iff]
      exact hsource u hu
    rw [hzero] at hdegree
    have hsorted := (hadvancing.ready m).mp hdegree
    rw [hqueue, List.append_nil] at hsorted
    exact hwaiting (List.mem_toFinset.mpr hsorted)
  by_contra hlate
  exact hfree (afterCycle_of_predecessors hpred (Finset.mem_sdiff.mpr
    ⟨List.mem_toFinset.mpr hv, fun h => hlate (List.mem_toFinset.mp h)⟩))

/-- Without a cycle every node is sorted. -/
theorem mem_finishFrom_of_acyclic {edges : List (α × α)} {degrees : OrderedMap α ℕ}
    {arrange : List α → List α} {initial : List α}
    (hdegrees : ∀ v degree, degrees.find? v = some degree → degree = (edges.map Prod.snd).count v)
    (hsources : ∀ e ∈ edges, e.1 ∈ degrees.keys) (harrange : ∀ l, (arrange l).Perm l)
    (hinitial : initial.Perm (initialNodes degrees)) (hacyclic : Acyclic edges) {v : α}
    (hv : v ∈ degrees.keys) :
    v ∈ (Progress.finishFrom (dependentsOf edges) arrange initial degrees).sorted :=
  mem_finishFrom_of_not_afterCycle hdegrees hsources harrange hinitial hv
    (hacyclic.not_afterCycle v)

theorem mem_kahn_of_not_afterCycle {edges : List (α × α)} {degrees : OrderedMap α ℕ}
    (hdegrees : ∀ v degree, degrees.find? v = some degree → degree = (edges.map Prod.snd).count v)
    (hsources : ∀ e ∈ edges, e.1 ∈ degrees.keys) {v : α} (hv : v ∈ degrees.keys)
    (hfree : ¬ AfterCycle edges v) : v ∈ kahn (dependentsOf edges) degrees := by
  rw [kahn, Progress.finish_eq_finishFrom]
  exact mem_finishFrom_of_not_afterCycle hdegrees hsources (fun l => List.perm_insertionSort _ l)
    (List.perm_insertionSort _ _) hv hfree

theorem mem_kahn_of_acyclic {edges : List (α × α)} {degrees : OrderedMap α ℕ}
    (hdegrees : ∀ v degree, degrees.find? v = some degree → degree = (edges.map Prod.snd).count v)
    (hsources : ∀ e ∈ edges, e.1 ∈ degrees.keys) (hacyclic : Acyclic edges) {v : α}
    (hv : v ∈ degrees.keys) : v ∈ kahn (dependentsOf edges) degrees :=
  mem_kahn_of_not_afterCycle hdegrees hsources hv (hacyclic.not_afterCycle v)

theorem Schedule.idxOf_lt {edges : List (α × α)} {nodes sorted : List α}
    (h : Schedule edges nodes sorted) {u v : α} (hedge : (u, v) ∈ edges) (hv : v ∈ sorted) :
    u ∈ sorted ∧ sorted.idxOf u < sorted.idxOf v := by
  obtain ⟨pre, post, heq⟩ := List.append_of_mem hv
  have hu := h.precedes pre v post heq u hedge
  have hnew : v ∉ pre := by
    have hnodup := h.nodup
    rw [heq, List.nodup_append] at hnodup
    exact fun hmem => hnodup.2.2 v hmem v List.mem_cons_self rfl
  refine ⟨heq ▸ List.mem_append_left _ hu, ?_⟩
  rw [heq, List.idxOf_append_of_mem hu, List.idxOf_append_of_notMem hnew, List.idxOf_cons_self]
  exact List.idxOf_lt_length_iff.mpr hu

/-- Induction along the order: a node may use what holds of the sources of its edges. -/
theorem Schedule.induction {edges : List (α × α)} {nodes sorted : List α}
    (h : Schedule edges nodes sorted) {p : α → Prop}
    (hstep : ∀ v ∈ sorted, (∀ u, (u, v) ∈ edges → p u) → p v) {v : α} (hv : v ∈ sorted) : p v := by
  induction hn : sorted.idxOf v using Nat.strong_induction_on generalizing v with
  | _ n ih =>
      apply hstep v hv
      intro u hedge
      obtain ⟨hu, hlt⟩ := h.idxOf_lt hedge hv
      exact ih _ (hn ▸ hlt) hu rfl

/-- No sorted node comes after a cycle. -/
theorem Schedule.notMem_of_afterCycle {edges : List (α × α)} {nodes sorted : List α}
    (h : Schedule edges nodes sorted) {v : α} (hcycle : AfterCycle edges v) : v ∉ sorted := by
  obtain ⟨c, hcycle, hpath⟩ := hcycle
  have hback : ∀ {u w}, Relation.ReflTransGen (fun u w => (u, w) ∈ edges) u w → w ∈ sorted →
      u ∈ sorted ∧ sorted.idxOf u ≤ sorted.idxOf w := by
    intro u w hpath hw
    induction hpath with
    | refl => exact ⟨hw, le_rfl⟩
    | tail _ hedge ih =>
        obtain ⟨hmid, hlt⟩ := h.idxOf_lt hedge hw
        obtain ⟨hu, hle⟩ := ih hmid
        exact ⟨hu, hle.trans hlt.le⟩
  intro hv
  obtain ⟨hc, -⟩ := hback hpath hv
  obtain ⟨u, hu, hedge⟩ := Relation.TransGen.tail'_iff.mp hcycle
  obtain ⟨humem, hlt⟩ := h.idxOf_lt hedge hc
  exact absurd ((hback hu humem).2.trans_lt hlt) (lt_irrefl _)

/-- Edges whose ends are all sorted form no cycle. -/
theorem Schedule.acyclic {edges : List (α × α)} {nodes sorted : List α}
    (h : Schedule edges nodes sorted) (htargets : ∀ e ∈ edges, e.2 ∈ sorted) : Acyclic edges := by
  have hpath : ∀ {u v}, Relation.TransGen (fun u w => (u, w) ∈ edges) u v →
      sorted.idxOf u < sorted.idxOf v := by
    intro u v hpath
    induction hpath with
    | single hedge => exact (h.idxOf_lt hedge (htargets _ hedge)).2
    | tail _ hedge ih => exact ih.trans (h.idxOf_lt hedge (htargets _ hedge)).2
  intro v hcycle
  exact absurd (hpath hcycle) (lt_irrefl _)

section Tallied

variable {ids : List α} {edges : List (α × α)}

/-- The tables of all edges, started for the nodes `ids`. -/
def talliedFrom (ids : List α) (edges : List (α × α)) :
    OrderedMap α ℕ × OrderedMap α (List α) :=
  edges.foldl tallyEdge (ids.foldl (fun degrees id => degrees.insert id 0) .empty,
    ids.foldl (fun dependents id => dependents.insert id []) .empty)

theorem dependents_talliedFrom :
    (fun node => ((talliedFrom ids edges).2.find? node).getD []) = dependentsOf edges := by
  funext node
  rw [talliedFrom, getD_find?_tallied, find?_insertEach]
  split <;> rfl

theorem degree_talliedFrom (v : α) (degree : ℕ)
    (hv : (talliedFrom ids edges).1.find? v = some degree) :
    degree = (edges.map Prod.snd).count v := by
  have hdegree := getD_find?_tallyEdges edges
    (ids.foldl (fun degrees id => degrees.insert id 0) .empty,
      ids.foldl (fun dependents id => dependents.insert id []) .empty) v
  rw [talliedFrom] at hv
  rw [hv, find?_insertEach] at hdegree
  split at hdegree
  · simpa using hdegree
  · simpa using hdegree

theorem mem_keys_talliedFrom (hknown : ∀ e ∈ edges, e.1 ∈ ids ∧ e.2 ∈ ids) {v : α} :
    v ∈ (talliedFrom ids edges).1.keys ↔ v ∈ ids := by
  rw [OrderedMap.mem_keys_iff, talliedFrom, isSome_find?_tallyEdges, find?_insertEach]
  constructor
  · rintro (hids | hends)
    · by_contra hv
      rw [if_neg hv] at hids
      cases hids
    · obtain ⟨e, he, rfl⟩ := List.mem_map.mp hends
      exact (hknown e he).2
  · intro hv
    left
    rw [if_pos hv]
    rfl

variable {arrange : List α → List α} {initial : List α}

/-- The nodes in the order in which the loop over the tables takes them. -/
def sortTallied (arrange : List α → List α) (initial : List α)
    (tables : OrderedMap α ℕ × OrderedMap α (List α)) : List α :=
  (Progress.finishFrom (fun node => (tables.2.find? node).getD []) arrange initial tables.1).sorted

theorem schedule_sortTallied (hknown : ∀ e ∈ edges, e.1 ∈ ids ∧ e.2 ∈ ids)
    (harrange : ∀ l, (arrange l).Perm l)
    (hinitial : initial.Perm (initialNodes (talliedFrom ids edges).1)) :
    Schedule edges ids (sortTallied arrange initial (talliedFrom ids edges)) := by
  have hschedule := (schedule_finishFrom degree_talliedFrom
    (fun e he => (mem_keys_talliedFrom hknown).mpr (hknown e he).1) harrange hinitial).1
  rw [← dependents_talliedFrom] at hschedule
  refine ⟨hschedule.nodup, ?_, hschedule.precedes⟩
  intro v hv
  exact (mem_keys_talliedFrom hknown).mp (hschedule.subset hv)

/-- All nodes are sorted if and only if the edges form no cycle. -/
theorem length_sortTallied_iff (hnodup : ids.Nodup)
    (hknown : ∀ e ∈ edges, e.1 ∈ ids ∧ e.2 ∈ ids) (harrange : ∀ l, (arrange l).Perm l)
    (hinitial : initial.Perm (initialNodes (talliedFrom ids edges).1)) :
    (sortTallied arrange initial (talliedFrom ids edges)).length = ids.length ↔ Acyclic edges := by
  have hschedule := schedule_sortTallied hknown harrange hinitial
  have hsubperm := List.subperm_of_subset hschedule.nodup hschedule.subset
  constructor
  · intro hlength
    have hperm := hsubperm.perm_of_length_le hlength.ge
    exact hschedule.acyclic fun e he => hperm.mem_iff.mpr (hknown e he).2
  · intro hacyclic
    refine le_antisymm hsubperm.length_le (List.subperm_of_subset hnodup fun v hv => ?_).length_le
    rw [sortTallied, dependents_talliedFrom]
    exact mem_finishFrom_of_acyclic degree_talliedFrom
      (fun e he => (mem_keys_talliedFrom hknown).mpr (hknown e he).1) harrange hinitial hacyclic
      ((mem_keys_talliedFrom hknown).mpr hv)

end Tallied

end Edges

end Datasynth.Lib.TopologicalOrder
