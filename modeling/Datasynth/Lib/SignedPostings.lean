import Mathlib.Algebra.BigOperators.Group.List.Basic
import Mathlib.Algebra.Group.Hom.Basic
import Datasynth.Lib.SortedEntries

/-!
Postings to named accounts, with debits counted positively, and what a list of
postings leaves on one account.
-/

namespace Datasynth.Lib.SignedPostings

open Datasynth.Lib.SortedEntries

universe u v

variable {κ : Type u} {M : Type v} [DecidableEq κ] [AddCommMonoid M]

def netOn (account : κ) (postings : List (κ × M)) : M :=
  (postings.map fun p => if p.1 = account then p.2 else 0).sum

@[simp] theorem netOn_nil (account : κ) : netOn account ([] : List (κ × M)) = 0 := rfl

theorem netOn_cons (account : κ) (p : κ × M) (postings : List (κ × M)) :
    netOn account (p :: postings) =
      (if p.1 = account then p.2 else 0) + netOn account postings := by
  simp [netOn]

theorem netOn_append (account : κ) (postings postings' : List (κ × M)) :
    netOn account (postings ++ postings') = netOn account postings + netOn account postings' := by
  rw [netOn, List.map_append, List.sum_append]
  rfl

theorem netOn_eq_zero {account : κ} {postings : List (κ × M)}
    (h : account ∉ postings.map Prod.fst) : netOn account postings = 0 := by
  apply List.sum_eq_zero
  intro x hx
  obtain ⟨p, hp, rfl⟩ := List.mem_map.mp hx
  apply if_neg
  rintro rfl
  exact h (List.mem_map_of_mem hp)

/-- The nets of all accounts are the sum of the amounts. -/
theorem sum_netOn {accounts : List κ} (hnodup : accounts.Nodup) {postings : List (κ × M)}
    (haccounts : ∀ p ∈ postings, p.1 ∈ accounts) :
    (accounts.map fun account => netOn account postings).sum = (postings.map Prod.snd).sum := by
  induction postings with
  | nil => simp
  | cons p postings ih =>
      rw [List.forall_mem_cons] at haccounts
      have hsingle : (accounts.map fun account => if p.1 = account then p.2 else 0).sum = p.2 := by
        rw [List.sum_map_eq_nsmul_single p.1]
        · rw [hnodup.count, if_pos haccounts.1, one_nsmul, if_pos rfl]
        · intro account hne _
          exact if_neg hne.symm
      simp only [netOn_cons]
      rw [List.sum_map_add, hsingle, ih haccounts.2, List.map_cons, List.sum_cons]

/-- Where no two postings that count are on one account, the net is the one that counts. -/
theorem netOn_of_pairwise {postings : List (κ × M)}
    (h : postings.Pairwise fun p q => p.2 ≠ 0 → q.2 ≠ 0 → p.1 ≠ q.1) {p : κ × M}
    (hp : p ∈ postings) (hne : p.2 ≠ 0) : netOn p.1 postings = p.2 := by
  induction postings with
  | nil => cases hp
  | cons q postings ih =>
      rw [List.pairwise_cons] at h
      rw [netOn_cons]
      rcases List.mem_cons.mp hp with rfl | hp
      · have hrest : netOn p.1 postings = 0 := by
          apply List.sum_eq_zero
          intro x hx
          obtain ⟨q, hq, rfl⟩ := List.mem_map.mp hx
          by_contra hcounts
          rw [ite_eq_right_iff, Classical.not_imp] at hcounts
          exact h.1 q hq hne hcounts.2 hcounts.1.symm
        rw [if_pos rfl, hrest, add_zero]
      · rw [ih h.2 hp]
        by_cases hq : q.2 = 0
        · rw [hq, ite_self, zero_add]
        · rw [if_neg (h.1 p hp hq hne), zero_add]

/-- Netting commutes with an additive map of the amounts. -/
theorem netOn_map {N : Type*} [AddCommMonoid N] (f : M →+ N) (account : κ)
    (postings : List (κ × M)) :
    netOn account (postings.map fun p => (p.1, f p.2)) = f (netOn account postings) := by
  induction postings with
  | nil => simp
  | cons p postings ih =>
      rw [List.map_cons, netOn_cons, netOn_cons, ih, map_add]
      split <;> simp

section Selections

/-- What the postings leave on the selected accounts together. -/
def netWhere (select : κ → Bool) (postings : List (κ × M)) : M :=
  (postings.map fun p => if select p.1 then p.2 else 0).sum

variable {select : κ → Bool}

omit [DecidableEq κ] in
@[simp] theorem netWhere_nil : netWhere select ([] : List (κ × M)) = 0 := rfl

omit [DecidableEq κ] in
@[simp] theorem netWhere_cons (p : κ × M) (postings : List (κ × M)) :
    netWhere select (p :: postings) =
      (if select p.1 then p.2 else 0) + netWhere select postings := by
  rw [netWhere, List.map_cons, List.sum_cons]
  rfl

omit [DecidableEq κ] in
@[simp] theorem netWhere_append (postings postings' : List (κ × M)) :
    netWhere select (postings ++ postings') =
      netWhere select postings + netWhere select postings' := by
  rw [netWhere, List.map_append, List.sum_append]
  rfl

omit [DecidableEq κ] in
theorem netWhere_eq_zero {postings : List (κ × M)} (h : ∀ p ∈ postings, select p.1 = false) :
    netWhere select postings = 0 := by
  apply List.sum_eq_zero
  intro x hx
  obtain ⟨p, hp, rfl⟩ := List.mem_map.mp hx
  simp only [h p hp, Bool.false_eq_true, if_false]

omit [DecidableEq κ] in
theorem netWhere_eq_sum_filter (postings : List (κ × M)) :
    netWhere select postings = ((postings.filter fun p => select p.1).map Prod.snd).sum := by
  induction postings with
  | nil => rfl
  | cons p postings ih =>
      rw [netWhere_cons, List.filter_cons, ih]
      split
      · rw [List.map_cons, List.sum_cons]
      · rw [zero_add]

theorem netWhere_decide (account : κ) (postings : List (κ × M)) :
    netWhere (fun a => decide (a = account)) postings = netOn account postings := by
  simp only [netWhere, netOn, decide_eq_true_eq]

end Selections

section Tallies

variable {κ : Type u} {M : Type v} [LinearOrder κ] [AddCommMonoid M]

/-- Postings added to the totals of the accounts. -/
def post (totals : OrderedMap κ M) (postings : List (κ × M)) : OrderedMap κ M :=
  postings.foldl (fun m p => m.upsert p.1 fun total => total.getD 0 + p.2) totals

/-- The postings added up account by account. -/
def tally (postings : List (κ × M)) : OrderedMap κ M :=
  postings.foldl (fun m p => m.upsert p.1 fun total => total.getD 0 + p.2) .empty

theorem find?_post (totals : OrderedMap κ M) (postings : List (κ × M)) (account : κ) :
    ((post totals postings).find? account).getD 0 =
      (totals.find? account).getD 0 + netOn account postings := by
  induction postings generalizing totals with
  | nil => rw [post, List.foldl_nil, netOn_nil, add_zero]
  | cons p postings ih =>
      have hstep : post totals (p :: postings) =
          post (totals.upsert p.1 fun total => total.getD 0 + p.2) postings := rfl
      rw [hstep, ih, netOn_cons, OrderedMap.find?_upsert, ← add_assoc]
      congr 1
      split
      · rename_i heq
        rw [heq, if_pos rfl, Option.getD_some]
      · rename_i hne
        rw [if_neg (Ne.symm hne), add_zero]

theorem find?_tally (postings : List (κ × M)) (account : κ) :
    ((tally postings).find? account).getD 0 = netOn account postings := by
  have hpost := find?_post .empty postings account
  rw [OrderedMap.find?_empty, Option.getD_none, zero_add] at hpost
  exact hpost

end Tallies

section Totals

variable {κ : Type u} {M : Type v} [LinearOrder κ] [AddCommGroup M]

/-- What the totals of the selected accounts come to. -/
theorem sumOver_post (select : κ → Bool) (totals : OrderedMap κ M) (postings : List (κ × M)) :
    ((post totals postings).sumOver fun account total => if select account then total else 0) =
      (totals.sumOver fun account total => if select account then total else 0) +
        netWhere select postings := by
  induction postings generalizing totals with
  | nil => rw [post, List.foldl_nil, netWhere_nil, add_zero]
  | cons p postings ih =>
      have hstep : post totals (p :: postings) =
          post (totals.upsert p.1 fun total => total.getD 0 + p.2) postings := rfl
      rw [hstep, ih, OrderedMap.sumOver_upsert, netWhere_cons]
      by_cases hselect : select p.1 = true
      · simp only [if_pos hselect]
        cases totals.find? p.1 with
        | none =>
            rw [Option.elim_none, Option.getD_none]
            abel
        | some total =>
            rw [Option.elim_some, Option.getD_some]
            abel
      · simp only [if_neg hselect]
        cases totals.find? p.1 with
        | none => simp
        | some total => simp

theorem netOn_entries (totals : OrderedMap κ M) (account : κ) :
    netOn account totals.entries = (totals.find? account).getD 0 := by
  have hsingle := totals.sumOver_single account (id : M → M)
  cases hfind : totals.find? account with
  | none =>
      rw [hfind] at hsingle
      exact hsingle
  | some total =>
      rw [hfind] at hsingle
      exact hsingle

theorem netWhere_entries_tally (select : κ → Bool) (postings : List (κ × M)) :
    netWhere select (tally postings).entries = netWhere select postings := by
  have hpost := sumOver_post select .empty postings
  have hempty : ((OrderedMap.empty : OrderedMap κ M).sumOver fun account total =>
      if select account then total else 0) = 0 := rfl
  rw [hempty, zero_add] at hpost
  exact hpost

end Totals

end Datasynth.Lib.SignedPostings
