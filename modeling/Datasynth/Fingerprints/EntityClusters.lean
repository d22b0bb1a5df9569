import Mathlib.Algebra.Field.Rat
import Mathlib.Data.List.Dedup
import Mathlib.Order.CompletePartialOrder
import Datasynth.Lib.OverlapMerging

/-!
The aggregation of the entity clusters of several clients, with 64-bit floats as exact rationals.
The clusters are merged to the connected components of those that share a member.
-/

namespace Datasynth.Fingerprints.EntityClusters

open Datasynth.Lib.OverlapMerging
open scoped List

universe u

section Model

structure EntityCluster where
  members : List String
  avg_jaccard : ℚ

structure EntityClustersPrior where
  clusters : List EntityCluster
  clustering_rate : ℚ

def EntityClustersPrior.default : EntityClustersPrior := ⟨[], 0⟩

/-- The last element takes the place of the one that is removed. -/
def swap_remove {α : Type u} (l : List α) (index : ℕ) : List α :=
  match l.getLast? with
  | some last => l.dropLast.set index last
  | none => []

def shares_member (c d : EntityCluster) : Bool := d.members.any fun m => m ∈ c.members

/-- The first places of two clusters with a member in common. -/
def merged_pair (clusters : List EntityCluster) : Option (ℕ × ℕ) :=
  clusters.zipIdx.findSome? fun c =>
    ((clusters.zipIdx.drop (c.2 + 1)).find? fun d => shares_member c.1 d.1).map fun d =>
      (c.2, d.2)

/-- The members are sorted, so that the order in which their set is iterated does not matter. -/
def fuse (first other : EntityCluster) : EntityCluster where
  members := (first.members ++ other.members).dedup.mergeSort
  avg_jaccard := (first.avg_jaccard + other.avg_jaccard) / 2

def merge_step (clusters : List EntityCluster) : Option (List EntityCluster) :=
  (merged_pair clusters).bind fun pair =>
    clusters[pair.2]?.bind fun other =>
      let remaining := swap_remove clusters pair.2
      remaining[pair.1]?.map fun first => remaining.set pair.1 (fuse first other)

theorem length_swap_remove {α : Type u} (l : List α) (index : ℕ) :
    (swap_remove l index).length = l.length - 1 := by
  rw [swap_remove]
  cases hlast : l.getLast? with
  | none => rw [List.getLast?_eq_none_iff.mp hlast]; rfl
  | some last => rw [List.length_set, List.length_dropLast]

theorem length_merge_step {clusters merged : List EntityCluster}
    (h : merge_step clusters = some merged) : merged.length < clusters.length := by
  obtain ⟨pair, -, h⟩ := Option.bind_eq_some_iff.mp h
  obtain ⟨other, hother, h⟩ := Option.bind_eq_some_iff.mp h
  obtain ⟨first, -, rfl⟩ := Option.map_eq_some_iff.mp h
  obtain ⟨hplace, -⟩ := List.getElem?_eq_some_iff.mp hother
  rw [List.length_set, length_swap_remove]
  omega

/-- Until no two clusters share a member; each merge leaves one cluster less. -/
def merge_clusters (clusters : List EntityCluster) : List EntityCluster :=
  match _hstep : merge_step clusters with
  | some merged => merge_clusters merged
  | none => clusters
termination_by clusters.length
decreasing_by exact length_merge_step ‹_›

def aggregate_entity_clusters (inputs : List EntityClustersPrior) : EntityClustersPrior :=
  if inputs = [] then .default
  else
    { clusters := merge_clusters (inputs.flatMap EntityClustersPrior.clusters)
      clustering_rate := (inputs.map EntityClustersPrior.clustering_rate).sum / inputs.length }

end Model

section Steps

def memberSet (c : EntityCluster) : Set String := {m | m ∈ c.members}

variable {clusters merged : List EntityCluster} {i j : ℕ}

theorem shares_member_iff {c d : EntityCluster} :
    shares_member c d = true ↔ ∃ m ∈ memberSet c, m ∈ memberSet d := by
  rw [shares_member, List.any_eq_true]
  simp only [decide_eq_true_eq]
  exact exists_congr fun m => and_comm

theorem memberSet_fuse (first other : EntityCluster) :
    memberSet (fuse first other) = memberSet first ∪ memberSet other := by
  ext m
  simp [memberSet, fuse]

theorem merged_pair_eq_some (h : merged_pair clusters = some (i, j)) :
    ∃ c d, clusters[i]? = some c ∧ clusters[j]? = some d ∧ i < j ∧ shares_member c d = true := by
  obtain ⟨⟨c, k⟩, hc, hfound⟩ := List.exists_of_findSome?_eq_some h
  obtain ⟨⟨d, k'⟩, hd, hplaces⟩ := Option.map_eq_some_iff.mp hfound
  simp only [Prod.mk.injEq] at hplaces hd
  obtain ⟨rfl, rfl⟩ := hplaces
  obtain ⟨n, hn⟩ := List.getElem?_of_mem (List.mem_of_find?_eq_some hd)
  rw [List.getElem?_drop, List.getElem?_zipIdx, zero_add, Option.map_eq_some_iff] at hn
  obtain ⟨d', hd', heq⟩ := hn
  obtain ⟨rfl, rfl⟩ := Prod.mk.inj heq
  have hshares := List.find?_some hd
  exact ⟨c, d', List.mk_mem_zipIdx_iff_getElem?.mp hc, hd', by omega, hshares⟩

theorem pairwise_of_merged_pair (h : merged_pair clusters = none) :
    clusters.Pairwise fun c d => ¬∃ m ∈ memberSet c, m ∈ memberSet d := by
  rw [List.pairwise_iff_getElem]
  intro i j hi hj hij hshares
  have hnone := List.findSome?_eq_none_iff.mp h (clusters[i], i)
    (List.mk_mem_zipIdx_iff_getElem?.mpr (List.getElem?_eq_getElem hi))
  rw [Option.map_eq_none_iff, List.find?_eq_none] at hnone
  refine hnone (clusters[j], j) ?_ (shares_member_iff.mpr hshares)
  apply List.mem_of_getElem? (i := j - (i + 1))
  rw [List.getElem?_drop, List.getElem?_zipIdx, Nat.add_sub_cancel' hij, zero_add,
    List.getElem?_eq_getElem hj]
  rfl

theorem swap_remove_perm {α : Type u} {l : List α} {index : ℕ} (h : index < l.length) :
    (l[index] :: swap_remove l index).Perm l := by
  rcases l.eq_nil_or_concat' with rfl | ⟨start, last, rfl⟩
  · cases h
  · rw [swap_remove, List.getLast?_concat]
    simp only [List.dropLast_concat]
    rcases Nat.lt_succ_iff_lt_or_eq.mp (by simpa using h) with hstart | rfl
    · rw [List.getElem_append_left hstart]
      have hperm := List.getElem_cons_eraseIdx_perm hstart
      calc start[index] :: start.set index last
        _ ~ start[index] :: last :: start.eraseIdx index :=
          (List.set_perm_cons_eraseIdx hstart last).cons _
        _ ~ last :: start[index] :: start.eraseIdx index := .swap _ _ _
        _ ~ last :: start := hperm.cons last
        _ ~ start ++ [last] := (List.perm_append_singleton last start).symm
    · rw [List.set_eq_of_length_le le_rfl]
      simpa using (List.perm_append_singleton last start).symm

theorem swap_remove_getElem? {α : Type u} {l : List α} (hij : i < j) (hj : j < l.length) :
    (swap_remove l j)[i]? = l[i]? := by
  rcases l.eq_nil_or_concat' with rfl | ⟨start, last, rfl⟩
  · cases hj
  · rw [List.length_append, List.length_singleton] at hj
    rw [swap_remove, List.getLast?_concat]
    simp only [List.dropLast_concat]
    rw [List.getElem?_set_ne hij.ne', List.getElem?_append_left (by omega)]

theorem merge_step_cases (clusters : List EntityCluster) :
    (∃ merged, merge_step clusters = some merged ∧ Merges memberSet clusters merged) ∨
      (merge_step clusters = none ∧
        clusters.Pairwise fun c d => ¬∃ m ∈ memberSet c, m ∈ memberSet d) := by
  cases hpair : merged_pair clusters with
  | none =>
      refine .inr ⟨?_, pairwise_of_merged_pair hpair⟩
      rw [merge_step, hpair]
      rfl
  | some pair =>
      obtain ⟨i, j⟩ := pair
      obtain ⟨c, d, hc, hd, hij, hshares⟩ := merged_pair_eq_some hpair
      obtain ⟨hj, hplace⟩ := List.getElem?_eq_some_iff.mp hd
      have hfirst : (swap_remove clusters j)[i]? = some c := (swap_remove_getElem? hij hj).trans hc
      obtain ⟨hi, hget⟩ := List.getElem?_eq_some_iff.mp hfirst
      refine .inl ⟨(swap_remove clusters j).set i (fuse c d), ?_, ?_⟩
      · rw [merge_step, hpair, Option.bind_some, hd, Option.bind_some]
        simp only [hfirst, Option.map_some]
      · have hbefore : clusters.Perm (c :: d :: (swap_remove clusters j).eraseIdx i) := by
          rw [← hget, ← hplace]
          exact ((swap_remove_perm hj).symm.trans
            ((List.getElem_cons_eraseIdx_perm hi).symm.cons _)).trans (.swap _ _ _)
        exact .fuse hbefore (List.set_perm_cons_eraseIdx hi _) (shares_member_iff.mp hshares)
          (memberSet_fuse c d)

/-- By steps that each merge two clusters, to clusters without a member in common. -/
theorem merge_clusters_spec (clusters : List EntityCluster) :
    Relation.ReflTransGen (Merges memberSet) clusters (merge_clusters clusters) ∧
      (merge_clusters clusters).Pairwise fun c d => ¬∃ m ∈ memberSet c, m ∈ memberSet d := by
  fun_induction merge_clusters clusters with
  | case1 clusters merged hstep ih =>
      rcases merge_step_cases clusters with ⟨merged', hmerged, hmerges⟩ | ⟨hnone, -⟩
      · obtain rfl : merged' = merged := Option.some.inj (hmerged.symm.trans hstep)
        exact ⟨.head hmerges ih.1, ih.2⟩
      · rw [hstep] at hnone
        cases hnone
  | case2 clusters hstep =>
      rcases merge_step_cases clusters with ⟨merged, hmerged, -⟩ | ⟨-, hpairwise⟩
      · rw [hstep] at hmerged
        cases hmerged
      · exact ⟨.refl, hpairwise⟩

end Steps

section Aggregation

variable (inputs : List EntityClustersPrior)

def inputClusters : List EntityCluster := inputs.flatMap EntityClustersPrior.clusters

/-- The member sets of the clusters that have a member. -/
def memberSets (clusters : List EntityCluster) : Set (Set String) :=
  {s | ∃ c ∈ clusters, (memberSet c).Nonempty ∧ memberSet c = s}

theorem clusters_aggregate : (aggregate_entity_clusters inputs).clusters =
    merge_clusters (inputClusters inputs) := by
  rw [aggregate_entity_clusters]
  split
  · rename_i hnil
    rw [hnil, inputClusters, List.flatMap_nil, merge_clusters]
    rfl
  · rfl

/-- The clusters that come out are the connected components of those that go in, in whatever order
these are. -/
theorem aggregate_entity_clusters_components (inputs : List EntityClustersPrior) :
    memberSets (aggregate_entity_clusters inputs).clusters =
        components memberSet (inputClusters inputs) ∧
      (aggregate_entity_clusters inputs).clusters.Pairwise (fun c d =>
        Disjoint (memberSet c) (memberSet d)) ∧
      (∀ m, (∃ c ∈ (aggregate_entity_clusters inputs).clusters, m ∈ c.members) ↔
        ∃ client ∈ inputs, ∃ c ∈ client.clusters, m ∈ c.members) ∧
      ∀ inputs', (inputClusters inputs').Perm (inputClusters inputs) →
        memberSets (aggregate_entity_clusters inputs').clusters =
          memberSets (aggregate_entity_clusters inputs).clusters := by
  have hcomponents : ∀ inputs, memberSets (aggregate_entity_clusters inputs).clusters =
      components memberSet (inputClusters inputs) := by
    intro inputs
    obtain ⟨hmerges, hpairwise⟩ := merge_clusters_spec (inputClusters inputs)
    rw [clusters_aggregate, memberSets, ← components_of_pairwise hpairwise]
    exact (covers_components_of_merges hmerges).2
  obtain ⟨hmerges, hpairwise⟩ := merge_clusters_spec (inputClusters inputs)
  refine ⟨hcomponents inputs, ?_, ?_, ?_⟩
  · rw [clusters_aggregate]
    exact hpairwise.imp fun hnone => Set.disjoint_left.mpr fun m hc hd => hnone ⟨m, hc, hd⟩
  · intro m
    rw [clusters_aggregate]
    refine ((covers_components_of_merges hmerges).1 m).trans ?_
    simp only [Covers, inputClusters, List.mem_flatMap]
    constructor
    · rintro ⟨c, ⟨client, hclient, hc⟩, hm⟩
      exact ⟨client, hclient, c, hc, hm⟩
    · rintro ⟨client, hclient, c, hc, hm⟩
      exact ⟨c, ⟨client, hclient, hc⟩, hm⟩
  · intro inputs' hperm
    rw [hcomponents, hcomponents, components_perm hperm]

end Aggregation

end Datasynth.Fingerprints.EntityClusters
