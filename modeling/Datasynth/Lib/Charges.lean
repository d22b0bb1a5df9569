import Mathlib.Algebra.Order.BigOperators.Group.List
import Mathlib.Algebra.Order.Group.Defs
import Mathlib.Algebra.Order.Group.MinMax
import Mathlib.Data.Nat.Basic
import Mathlib.Order.Monotone.Basic
import Mathlib.Tactic.Common

/-!
An amount that charges draw down, each of which takes at most what is left.
-/

namespace Datasynth.Lib.Depletion

universe u

variable {K : Type u} [AddCommGroup K] [LinearOrder K]

def deplete (left charge : K) : K := left - min charge left

variable [IsOrderedAddMonoid K] {left charge : K} {charges : List K}

theorem deplete_eq_max (left charge : K) : deplete left charge = max (left - charge) 0 := by
  rw [deplete, ← max_sub_sub_left, sub_self]

theorem deplete_nonneg (left charge : K) : 0 ≤ deplete left charge := by
  rw [deplete_eq_max]
  exact le_max_right _ _

theorem foldl_deplete (hcharges : ∀ c ∈ charges, 0 ≤ c) (hleft : 0 ≤ left) :
    charges.foldl deplete left = max (left - charges.sum) 0 := by
  induction charges generalizing left with
  | nil => rw [List.foldl_nil, List.sum_nil, sub_zero, max_eq_left hleft]
  | cons c charges ih =>
      rw [List.forall_mem_cons] at hcharges
      have hsum : 0 ≤ charges.sum := List.sum_nonneg hcharges.2
      rw [List.foldl_cons, ih hcharges.2 (deplete_nonneg _ _), deplete_eq_max, List.sum_cons]
      rcases le_total c left with hle | hle
      · rw [max_eq_left (sub_nonneg.mpr hle), sub_sub]
      · rw [max_eq_right (sub_nonpos.mpr hle), zero_sub, max_eq_right (neg_nonpos.mpr hsum),
          max_eq_right]
        exact sub_nonpos.mpr (hle.trans (le_add_of_nonneg_right hsum))

/-- Charges that together exceed the amount use it up exactly. -/
theorem foldl_deplete_eq_zero (hcharges : ∀ c ∈ charges, 0 ≤ c) (hleft : 0 ≤ left)
    (hsum : left ≤ charges.sum) : charges.foldl deplete left = 0 := by
  rw [foldl_deplete hcharges hleft, max_eq_right (sub_nonpos.mpr hsum)]

end Datasynth.Lib.Depletion

/-!
Equal charges against a budget, admitted one by one while the loss so far leaves room for the
charge itself.  The loss of several charges need not be their sum.
-/

namespace Datasynth.Lib.AdmittedCharges

universe u

variable {K : Type u} [AddCommGroup K] [LinearOrder K] (loss : ℕ → K) (budget charge : K)

/-- The admitted charges after some requests. -/
def admitted : ℕ → ℕ
  | 0 => 0
  | requests + 1 =>
      if loss (admitted requests) + charge ≤ budget then admitted requests + 1
      else admitted requests

variable {loss budget charge}

theorem admitted_succ_of_le {k : ℕ} (h : loss (admitted loss budget charge k) + charge ≤ budget) :
    admitted loss budget charge (k + 1) = admitted loss budget charge k + 1 := if_pos h

theorem admitted_succ_of_not_le {k : ℕ}
    (h : ¬ loss (admitted loss budget charge k) + charge ≤ budget) :
    admitted loss budget charge (k + 1) = admitted loss budget charge k := if_neg h

variable [IsOrderedAddMonoid K]

/-- With a growing loss, everything before an admissible charge was admitted. -/
theorem admitted_of_le (hmono : Monotone loss) {n : ℕ} (h : loss n + charge ≤ budget) (k : ℕ)
    (hk : k ≤ n) : admitted loss budget charge k = k := by
  induction k with
  | zero => rfl
  | succ k ih =>
      have hadmitted := ih (Nat.le_of_succ_le hk)
      have hle : loss k ≤ loss n := hmono (Nat.le_of_succ_le hk)
      have hroom : loss (admitted loss budget charge k) + charge ≤ budget := by
        rw [hadmitted]
        exact (add_le_add_left hle charge).trans h
      rw [admitted_succ_of_le hroom, hadmitted]

/-- The budget is kept after every admitted charge exactly if no charge that leaves room for
itself takes the loss over the budget. -/
theorem keeps_budget_iff (hmono : Monotone loss) :
    (∀ k, loss (admitted loss budget charge k) + charge ≤ budget →
        loss (admitted loss budget charge k + 1) ≤ budget) ↔
      ∀ n, loss n + charge ≤ budget → loss (n + 1) ≤ budget := by
  constructor
  · intro h n hn
    have hadmitted := admitted_of_le hmono hn n le_rfl
    have hnext := h n
    rw [hadmitted] at hnext
    exact hnext hn
  · intro h k hk
    exact h _ hk

end Datasynth.Lib.AdmittedCharges

/-!
Charges taken one after the other, each capped at the same amount: when the capped
charges together stay within a single cap.
-/

namespace Datasynth.Lib.CappedCharges

universe u

variable {K : Type u} [AddCommGroup K] [LinearOrder K]

/-- Charges that fit one cap although each is capped on its own: nothing can be
charged, the charges fit uncapped, or there is at most one. -/
def Absorbable (cap : K) (charges : List K) : Prop :=
  cap = 0 ∨ charges.sum ≤ cap ∨ (charges.filter (0 < ·)).length ≤ 1

def cappedSum (cap : K) (charges : List K) : K := (charges.map (min · cap)).sum

theorem cappedSum_cons (cap c : K) (charges : List K) :
    cappedSum cap (c :: charges) = min c cap + cappedSum cap charges := rfl

theorem cappedSum_append (cap : K) (charges charges' : List K) :
    cappedSum cap (charges ++ charges') = cappedSum cap charges + cappedSum cap charges' := by
  rw [cappedSum, List.map_append, List.sum_append]
  rfl

theorem cappedSum_perm (cap : K) {charges charges' : List K} (h : charges.Perm charges') :
    cappedSum cap charges = cappedSum cap charges' :=
  (h.map _).sum_eq

section Nonneg

variable {cap : K} {charges : List K}

theorem cappedSum_eq_sum (h : ∀ c ∈ charges, c ≤ cap) : cappedSum cap charges = charges.sum := by
  have hmap : charges.map (min · cap) = charges.map id :=
    List.map_congr_left fun c hc => min_eq_left (h c hc)
  rw [cappedSum, hmap, List.map_id]

theorem cappedSum_filter_pos (hcap : 0 ≤ cap) (hcharges : ∀ c ∈ charges, 0 ≤ c) :
    cappedSum cap (charges.filter (0 < ·)) = cappedSum cap charges := by
  induction charges with
  | nil => rfl
  | cons c charges ih =>
      have ih := ih fun c' hc' => hcharges c' (List.mem_cons_of_mem _ hc')
      rcases (hcharges c (List.mem_cons_self ..)).eq_or_lt with rfl | hpos
      · rw [List.filter_cons_of_neg (by simp), ih, cappedSum_cons, min_eq_left hcap, zero_add]
      · rw [List.filter_cons_of_pos (by simpa using hpos), cappedSum_cons, ih, cappedSum_cons]

variable [IsOrderedAddMonoid K]

theorem cappedSum_nonneg (hcap : 0 ≤ cap) (hcharges : ∀ c ∈ charges, 0 ≤ c) :
    0 ≤ cappedSum cap charges := by
  refine List.sum_nonneg fun x hx => ?_
  obtain ⟨c, hc, rfl⟩ := List.mem_map.mp hx
  exact le_min (hcharges c hc) hcap

theorem min_le_cappedSum (hcap : 0 ≤ cap) (hcharges : ∀ c ∈ charges, 0 ≤ c) {c : K}
    (hc : c ∈ charges) : min c cap ≤ cappedSum cap charges := by
  refine List.single_le_sum (fun x hx => ?_) _ (List.mem_map_of_mem hc)
  obtain ⟨c', hc', rfl⟩ := List.mem_map.mp hx
  exact le_min (hcharges c' hc') hcap

theorem cappedSum_le_sum (cap : K) (charges : List K) : cappedSum cap charges ≤ charges.sum := by
  induction charges with
  | nil => exact le_rfl
  | cons c charges ih => exact add_le_add (min_le_left _ _) ih

/-- A charge beyond the cap exhausts it, so another positive charge exceeds it. -/
theorem lt_cappedSum_of_two (hcap : 0 < cap) (hcharges : ∀ c ∈ charges, 0 ≤ c) {c : K}
    (hc : c ∈ charges) (hover : cap < c) (hlength : 1 < (charges.filter (0 < ·)).length) :
    cap < cappedSum cap charges := by
  obtain ⟨before, after, rfl⟩ := List.append_of_mem hc
  have hperm : (before ++ c :: after).Perm (c :: (before ++ after)) := List.perm_middle
  have hrest : ∀ c' ∈ before ++ after, 0 ≤ c' := fun c' hc' =>
    hcharges c' (hperm.mem_iff.mpr (List.mem_cons_of_mem _ hc'))
  obtain ⟨c', hc'⟩ : ∃ c', c' ∈ (before ++ after).filter (0 < ·) := by
    refine List.exists_mem_of_length_pos ?_
    rw [(hperm.filter _).length_eq,
      List.filter_cons_of_pos (by simpa using hcap.trans hover), List.length_cons] at hlength
    exact Nat.lt_of_succ_lt_succ hlength
  obtain ⟨hmem, hpos⟩ := List.mem_filter.mp hc'
  have hother : 0 < min c' cap := lt_min (by simpa using hpos) hcap
  calc cap < cap + min c' cap := lt_add_of_pos_right _ hother
    _ ≤ cap + cappedSum cap (before ++ after) :=
        add_le_add_right (min_le_cappedSum hcap.le hrest hmem) _
    _ = cappedSum cap (before ++ c :: after) := by
        rw [cappedSum_perm cap hperm, cappedSum_cons, min_eq_right hover.le]

theorem cappedSum_le_iff (hcap : 0 ≤ cap) (hcharges : ∀ c ∈ charges, 0 ≤ c) :
    cappedSum cap charges ≤ cap ↔ Absorbable cap charges := by
  constructor
  · intro hle
    by_contra habsorb
    simp only [Absorbable, not_or, not_le] at habsorb
    obtain ⟨hne, hsum, hlength⟩ := habsorb
    have hpos : 0 < cap := hcap.lt_of_ne' hne
    by_cases hall : ∀ c ∈ charges, c ≤ cap
    · exact hle.not_gt (cappedSum_eq_sum hall ▸ hsum)
    · obtain ⟨c, hc, hover⟩ := not_forall₂.mp hall
      exact hle.not_gt (lt_cappedSum_of_two hpos hcharges hc (not_le.mp hover) hlength)
  · rintro (rfl | hsum | hlength)
    · have hzero : charges.map (min · 0) = charges.map fun _ => 0 :=
        List.map_congr_left fun c hc => min_eq_right (hcharges c hc)
      rw [cappedSum, hzero]
      simp
    · exact (cappedSum_le_sum cap charges).trans hsum
    · rw [← cappedSum_filter_pos hcap hcharges]
      rcases Nat.le_one_iff_eq_zero_or_eq_one.mp hlength with hnil | hone
      · rw [List.length_eq_zero_iff.mp hnil]
        exact hcap
      · obtain ⟨c, hc⟩ := List.length_eq_one_iff.mp hone
        rw [hc, cappedSum_cons]
        exact (add_zero (min c cap)).trans_le (min_le_right _ _)

end Nonneg

end Datasynth.Lib.CappedCharges
