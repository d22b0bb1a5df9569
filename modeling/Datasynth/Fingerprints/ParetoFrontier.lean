import Mathlib.Data.Prod.Lex
import Mathlib.Order.OrderDual
import Mathlib.Tactic.Tauto
import Datasynth.Lib.HashedMaximum

/-!
Operating points between privacy and utility, the frontier of those that no other dominates, and
the epsilon that is recommended from it.
-/

namespace Datasynth.Fingerprints.ParetoFrontier

open Datasynth.Lib.DominanceFronts

universe u

section Points

structure ParetoPoint (α : Type u) where
  epsilon : α
  delta : Option α
  utility_score : α
  benford_mad : α
  correlation_score : α

variable {α : Type u} [LinearOrder α]

/-- By ascending epsilon; points with the same epsilon keep their order. -/
def sortByEpsilon (points : List (ParetoPoint α)) : List (ParetoPoint α) :=
  points.mergeSort fun a b => a.epsilon ≤ b.epsilon

/-- Point `b` is at least as good as `a` on both sides, and better on one. -/
def is_dominated (a b : ParetoPoint α) : Bool :=
  b.epsilon ≤ a.epsilon ∧ a.utility_score ≤ b.utility_score ∧
    (b.epsilon < a.epsilon ∨ a.utility_score < b.utility_score)

/-- A point is compared with those at the other positions. -/
def filter_dominated (points : List (ParetoPoint α)) : List (ParetoPoint α) :=
  let kept := points.zipIdx.filter fun point =>
    !points.zipIdx.any fun other => other.2 ≠ point.2 ∧ is_dominated point.1 other.1
  sortByEpsilon (kept.map Prod.fst)

def explore (epsilons : List α) (utility_fn : α → ParetoPoint α) : List (ParetoPoint α) :=
  if epsilons = [] then []
  else filter_dominated (sortByEpsilon (epsilons.map utility_fn))

def recommend (points : List (ParetoPoint α)) (target_utility : α) : Option α :=
  let candidates := points.filter fun p => target_utility ≤ p.utility_score
  (sortByEpsilon candidates).head?.map ParetoPoint.epsilon

end Points

section Frontier

variable {α : Type u} [LinearOrder α] {points : List (ParetoPoint α)} {a b : ParetoPoint α}

/-- More privacy and more utility are up. -/
def merit (p : ParetoPoint α) : αᵒᵈ × α := (OrderDual.toDual p.epsilon, p.utility_score)

theorem merit_le_iff : merit a ≤ merit b ↔
    b.epsilon ≤ a.epsilon ∧ a.utility_score ≤ b.utility_score :=
  Iff.rfl

theorem is_dominated_iff : is_dominated a b = true ↔ merit a < merit b := by
  rw [is_dominated, decide_eq_true_iff, lt_iff_le_not_ge (a := merit a), merit_le_iff,
    merit_le_iff, not_and_or, not_le, not_le, and_assoc]

theorem pairwise_sortByEpsilon (points : List (ParetoPoint α)) :
    (sortByEpsilon points).Pairwise fun a b => a.epsilon ≤ b.epsilon := by
  have hsorted : (sortByEpsilon points).Pairwise fun a b => decide (a.epsilon ≤ b.epsilon) :=
    List.pairwise_mergeSort
      (fun a b c hab hbc =>
        decide_eq_true ((of_decide_eq_true hab).trans (of_decide_eq_true hbc)))
      (fun a b => by simpa using le_total a.epsilon b.epsilon) points
  exact hsorted.imp of_decide_eq_true

theorem sortByEpsilon_perm (points : List (ParetoPoint α)) : (sortByEpsilon points).Perm points :=
  List.mergeSort_perm _ _

omit [LinearOrder α] in
theorem eq_of_mem_zipIdx {p q : ParetoPoint α} {i : ℕ} (hp : (p, i) ∈ points.zipIdx)
    (hq : (q, i) ∈ points.zipIdx) : p = q := by
  rw [List.mem_zipIdx_iff_getElem?] at hp hq
  exact Option.some.inj (hp.symm.trans hq)

/-- The points that no other point dominates. -/
def front (points : List (ParetoPoint α)) : List (ParetoPoint α) :=
  points.filter fun p => ∀ q ∈ points, is_dominated p q = false

theorem mem_front_iff {p : ParetoPoint α} : p ∈ front points ↔ OnFront merit points p := by
  rw [front, List.mem_filter, decide_eq_true_iff]
  constructor
  · rintro ⟨hmem, hfree⟩
    refine ⟨hmem, ?_⟩
    intro q hq hlt
    rw [← is_dominated_iff, hfree q hq] at hlt
    exact Bool.false_ne_true hlt
  · rintro ⟨hmem, hmaximal⟩
    refine ⟨hmem, ?_⟩
    intro q hq
    rw [Bool.eq_false_iff, ne_eq, is_dominated_iff]
    exact hmaximal q hq

/-- No point dominates itself, so that comparing by position makes no difference. -/
theorem filter_dominated_perm (points : List (ParetoPoint α)) :
    (filter_dominated points).Perm (front points) := by
  have hkept : ∀ point ∈ points.zipIdx,
      (!points.zipIdx.any fun other => other.2 ≠ point.2 ∧ is_dominated point.1 other.1) =
        decide (∀ q ∈ points, is_dominated point.1 q = false) := by
    intro point hpoint
    rw [Bool.eq_iff_iff, Bool.not_eq_true', ← Bool.not_eq_true, List.any_eq_true,
      decide_eq_true_iff]
    constructor
    · intro hnone q hq
      rw [Bool.eq_false_iff]
      intro hdominated
      obtain ⟨i, hi⟩ := List.getElem?_of_mem hq
      have hother : (q, i) ∈ points.zipIdx := List.mem_zipIdx_iff_getElem?.mpr hi
      refine hnone ⟨(q, i), hother, decide_eq_true ⟨?_, hdominated⟩⟩
      rintro rfl
      rw [eq_of_mem_zipIdx hpoint hother, is_dominated_iff] at hdominated
      exact lt_irrefl _ hdominated
    · rintro hfree ⟨other, hother, hdominated⟩
      have hmem : other.1 ∈ points := by
        rw [← List.zipIdx_map_fst 0 points]
        exact List.mem_map_of_mem hother
      rw [decide_eq_true_iff, hfree _ hmem] at hdominated
      exact Bool.false_ne_true hdominated.2
  have hfilter : (points.zipIdx.filter fun point =>
      decide (∀ q ∈ points, is_dominated point.1 q = false)).map Prod.fst = front points := by
    have hpositions := congrArg
      (List.filter fun p => decide (∀ q ∈ points, is_dominated p q = false))
      (List.zipIdx_map_fst 0 points)
    rw [List.filter_map] at hpositions
    exact hpositions
  rw [filter_dominated, List.filter_congr hkept]
  simp only [hfilter]
  exact sortByEpsilon_perm _

variable (points) in
theorem recommend_eq_some_iff (target_utility epsilon : α) :
    recommend points target_utility = some epsilon ↔
      (∃ p ∈ points, target_utility ≤ p.utility_score ∧ p.epsilon = epsilon) ∧
        ∀ p ∈ points, target_utility ≤ p.utility_score → epsilon ≤ p.epsilon := by
  have hperm := sortByEpsilon_perm (points.filter fun p => target_utility ≤ p.utility_score)
  have hsorted :=
    pairwise_sortByEpsilon (points.filter fun p => target_utility ≤ p.utility_score)
  have hmem : ∀ p, p ∈ sortByEpsilon (points.filter fun p => target_utility ≤ p.utility_score) ↔
      p ∈ points ∧ target_utility ≤ p.utility_score := by
    intro p
    rw [hperm.mem_iff, List.mem_filter, decide_eq_true_iff]
  rw [recommend]
  generalize sortByEpsilon (points.filter fun p => target_utility ≤ p.utility_score) = candidates
    at hsorted hmem ⊢
  cases candidates with
  | nil =>
      refine iff_of_false nofun ?_
      rintro ⟨⟨p, hp, hutility, -⟩, -⟩
      exact absurd ((hmem p).mpr ⟨hp, hutility⟩) List.not_mem_nil
  | cons first candidates =>
      have hfirst := (hmem first).mp List.mem_cons_self
      have hleast : ∀ p ∈ points, target_utility ≤ p.utility_score →
          first.epsilon ≤ p.epsilon := by
        intro p hp hutility
        rcases List.mem_cons.mp ((hmem p).mpr ⟨hp, hutility⟩) with rfl | hrest
        · exact le_rfl
        · exact (List.pairwise_cons.mp hsorted).1 p hrest
      simp only [List.head?_cons, Option.map_some, Option.some.injEq]
      constructor
      · rintro rfl
        exact ⟨⟨first, hfirst.1, hfirst.2, rfl⟩, hleast⟩
      · rintro ⟨⟨p, hp, hutility, rfl⟩, hbelow⟩
        exact le_antisymm (hleast p hp hutility) (hbelow first hfirst.1 hfirst.2)

/-- What a point on the frontier offers is no worse than what is left out for it. -/
theorem recommend_front (points : List (ParetoPoint α)) (target_utility : α) :
    recommend (front points) target_utility = recommend points target_utility := by
  have hbelow : ∀ p ∈ points, ∃ q ∈ front points,
      q.epsilon ≤ p.epsilon ∧ p.utility_score ≤ q.utility_score := by
    intro p hp
    obtain ⟨q, hq, hle⟩ : ∃ q, OnFront merit points q ∧ merit p ≤ merit q := exists_onFront hp
    exact ⟨q, mem_front_iff.mpr hq, merit_le_iff.mp hle⟩
  have hmem : ∀ p ∈ front points, p ∈ points := fun p hp => (mem_front_iff.mp hp).mem
  apply Option.ext
  intro epsilon
  rw [recommend_eq_some_iff, recommend_eq_some_iff]
  constructor
  · rintro ⟨⟨p, hp, hutility, rfl⟩, hleast⟩
    refine ⟨⟨p, hmem p hp, hutility, rfl⟩, ?_⟩
    intro q hq hreaches
    obtain ⟨r, hr, hepsilon, hscore⟩ := hbelow q hq
    exact (hleast r hr (hreaches.trans hscore)).trans hepsilon
  · rintro ⟨⟨p, hp, hutility, rfl⟩, hleast⟩
    obtain ⟨r, hr, hepsilon, hscore⟩ := hbelow p hp
    have hreaches := hutility.trans hscore
    refine ⟨⟨r, hr, hreaches, le_antisymm hepsilon (hleast r (hmem r hr) hreaches)⟩, ?_⟩
    intro q hq
    exact hleast q (hmem q hq)

theorem front_perm {points' : List (ParetoPoint α)} (h : points.Perm points') :
    (front points).Perm (front points') := by
  have hfree : ∀ p, decide (∀ q ∈ points, is_dominated p q = false) =
      decide (∀ q ∈ points', is_dominated p q = false) := by
    intro p
    simp only [h.mem_iff]
  rw [front, front]
  simp only [hfree]
  exact h.filter _

theorem recommend_perm {points' : List (ParetoPoint α)} (h : points.Perm points')
    (target_utility : α) : recommend points target_utility = recommend points' target_utility := by
  apply Option.ext
  intro epsilon
  rw [recommend_eq_some_iff, recommend_eq_some_iff]
  simp only [h.mem_iff]

theorem explore_perm (epsilons : List α) (utility_fn : α → ParetoPoint α) :
    (explore epsilons utility_fn).Perm (front (epsilons.map utility_fn)) := by
  rw [explore]
  split
  · rename_i hnone
    rw [hnone]
    rfl
  · exact (filter_dominated_perm _).trans (front_perm (sortByEpsilon_perm _))

theorem pairwise_explore (epsilons : List α) (utility_fn : α → ParetoPoint α) :
    (explore epsilons utility_fn).Pairwise fun a b => a.epsilon ≤ b.epsilon := by
  rw [explore]
  split
  · exact List.Pairwise.nil
  · exact pairwise_sortByEpsilon _

/-- The frontier is what no evaluated point dominates, in ascending epsilon, and recommending from
it is recommending from all points. -/
theorem explore_recommend (epsilons : List α) (utility_fn : α → ParetoPoint α) :
    (explore epsilons utility_fn).Pairwise (fun a b => a.epsilon ≤ b.epsilon) ∧
      (explore epsilons utility_fn).Perm ((epsilons.map utility_fn).filter fun p =>
        ∀ q ∈ epsilons.map utility_fn, is_dominated p q = false) ∧
      ∀ target_utility, recommend (explore epsilons utility_fn) target_utility =
        recommend (epsilons.map utility_fn) target_utility := by
  refine ⟨pairwise_explore _ _, explore_perm _ _, ?_⟩
  intro target_utility
  rw [recommend_perm (explore_perm _ _), recommend_front]

end Frontier

end Datasynth.Fingerprints.ParetoFrontier
