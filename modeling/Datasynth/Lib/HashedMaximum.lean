import Datasynth.Lib.HashIteration
import Mathlib.Algebra.GroupWithZero.Nat
import Mathlib.Data.List.Induction
import Mathlib.Data.List.Rotate
import Mathlib.Data.List.Sort
import Mathlib.Data.Set.Finite.List
import Mathlib.Order.Lattice
import Mathlib.Order.Preorder.Finite

/-!
The last element of greatest key: what a scan that replaces its choice on ties keeps.
-/

namespace Datasynth.Lib.LastMaximum

universe u v w

variable {α : Type u} {κ : Type v} [LinearOrder κ]

def maxByKey (key : α → κ) (l : List α) : Option α :=
  l.foldl (fun best a =>
    match best with
    | none => some a
    | some b => if key b ≤ key a then some a else some b) none

/-- Nothing before `a` has a greater key, and everything after it a smaller one. -/
def IsLastMax (key : α → κ) (l : List α) (a : α) : Prop :=
  ∃ before after, l = before ++ a :: after ∧ (∀ b ∈ before, key b ≤ key a) ∧
    ∀ b ∈ after, key b < key a

namespace IsLastMax

variable {key : α → κ} {l : List α} {a b : α}

theorem mem (h : IsLastMax key l a) : a ∈ l := by
  obtain ⟨before, after, rfl, -, -⟩ := h
  simp

theorem key_le (h : IsLastMax key l a) (hb : b ∈ l) : key b ≤ key a := by
  obtain ⟨before, after, rfl, hbefore, hafter⟩ := h
  rcases List.mem_append.mp hb with hb | hb
  · exact hbefore b hb
  · rcases List.mem_cons.mp hb with rfl | hb
    · exact le_rfl
    · exact (hafter b hb).le

/-- A later element takes over unless its key is smaller. -/
theorem concat_self (h : ∀ b ∈ l, key b ≤ key a) : IsLastMax key (l ++ [a]) a :=
  ⟨l, [], rfl, h, by simp⟩

theorem concat_of_lt (h : IsLastMax key l a) (hb : key b < key a) :
    IsLastMax key (l ++ [b]) a := by
  obtain ⟨before, after, rfl, hbefore, hafter⟩ := h
  refine ⟨before, after ++ [b], by simp, hbefore, ?_⟩
  intro c hc
  rcases List.mem_append.mp hc with hc | hc
  · exact hafter c hc
  · rw [List.mem_singleton.mp hc]
    exact hb

theorem unique (ha : IsLastMax key l a) (hb : IsLastMax key l b) : a = b := by
  obtain ⟨before, after, rfl, hbefore, hafter⟩ := ha
  obtain ⟨before', after', heq, hbefore', hafter'⟩ := hb
  rcases List.append_eq_append_iff.mp heq with ⟨gap, rfl, hgap⟩ | ⟨gap, rfl, hgap⟩
  · cases gap with
    | nil => exact (List.cons.inj hgap).1
    | cons c gap =>
        obtain ⟨rfl, rfl⟩ := List.cons.inj hgap
        exact absurd (hafter b (by simp)) (not_lt.mpr (hbefore' a (by simp)))
  · cases gap with
    | nil => exact (List.cons.inj hgap).1.symm
    | cons c gap =>
        obtain ⟨rfl, rfl⟩ := List.cons.inj hgap
        exact absurd (hafter' a (by simp)) (not_lt.mpr (hbefore b (by simp)))

/-- Two maxima, by whatever keys, stand at one place or are two elements. -/
theorem split_of_both {κ' : Type w} [LinearOrder κ'] {key' : α → κ'} (h : IsLastMax key l a)
    (h' : IsLastMax key' l a) :
    ∃ before after, l = before ++ a :: after ∧
      (∀ b ∈ before, key b ≤ key a ∧ key' b ≤ key' a) ∧
      ∀ b ∈ after, key b < key a ∧ key' b < key' a := by
  obtain ⟨before, after, rfl, hbefore, hafter⟩ := h
  obtain ⟨before', after', heq, hbefore', hafter'⟩ := h'
  rcases List.append_eq_append_iff.mp heq with ⟨gap, rfl, hgap⟩ | ⟨gap, rfl, hgap⟩
  · cases gap with
    | nil =>
        cases hgap
        rw [List.append_nil] at hbefore'
        exact ⟨before, after, rfl, fun b hb => ⟨hbefore b hb, hbefore' b hb⟩,
          fun b hb => ⟨hafter b hb, hafter' b hb⟩⟩
    | cons c gap =>
        have hlater : a ∈ after := by
          rw [(List.cons.inj hgap).2]
          simp
        exact absurd (hafter a hlater) (lt_irrefl _)
  · cases gap with
    | nil =>
        cases hgap
        rw [List.append_nil] at hbefore
        exact ⟨before', after, by rw [List.append_nil],
          fun b hb => ⟨hbefore b hb, hbefore' b hb⟩, fun b hb => ⟨hafter b hb, hafter' b hb⟩⟩
    | cons c gap =>
        have hlater : a ∈ after' := by
          rw [(List.cons.inj hgap).2]
          simp
        exact absurd (hafter' a hlater) (lt_irrefl _)

end IsLastMax

theorem maxByKey_concat (key : α → κ) (l : List α) (a : α) :
    maxByKey key (l ++ [a]) =
      (maxByKey key l).elim (some a) fun b => if key b ≤ key a then some a else some b := by
  rw [maxByKey, List.foldl_append]
  change (match maxByKey key l with
    | none => some a
    | some b => if key b ≤ key a then some a else some b) = _
  cases maxByKey key l <;> rfl

theorem maxByKey_eq_none_iff {key : α → κ} {l : List α} : maxByKey key l = none ↔ l = [] := by
  induction l using List.reverseRecOn with
  | nil => simp [maxByKey]
  | append_singleton l x _ =>
      rw [maxByKey_concat]
      cases maxByKey key l with
      | none => simp
      | some b =>
          rw [Option.elim_some]
          split <;> simp

theorem maxByKey_isLastMax {key : α → κ} {l : List α} {a : α} (h : maxByKey key l = some a) :
    IsLastMax key l a := by
  induction l using List.reverseRecOn generalizing a with
  | nil => cases h
  | append_singleton l x ih =>
      rw [maxByKey_concat] at h
      cases hbest : maxByKey key l with
      | none =>
          rw [hbest, Option.elim_none] at h
          cases h
          rw [maxByKey_eq_none_iff.mp hbest]
          exact IsLastMax.concat_self (by simp)
      | some b =>
          rw [hbest, Option.elim_some] at h
          by_cases hle : key b ≤ key x
          · rw [if_pos hle] at h
            cases h
            exact IsLastMax.concat_self fun c hc => ((ih hbest).key_le hc).trans hle
          · rw [if_neg hle] at h
            cases h
            exact (ih hbest).concat_of_lt (not_le.mp hle)

/-- There is one last maximum, and the scan finds it. -/
theorem maxByKey_eq_some_iff {key : α → κ} {l : List α} {a : α} :
    maxByKey key l = some a ↔ IsLastMax key l a := by
  refine ⟨maxByKey_isLastMax, fun h => ?_⟩
  cases hfound : maxByKey key l with
  | none =>
      rw [maxByKey_eq_none_iff.mp hfound] at h
      exact absurd h.mem List.not_mem_nil
  | some b => rw [(maxByKey_isLastMax hfound).unique h]

end Datasynth.Lib.LastMaximum

/-!
The key of greatest total in a hash map.  Any key of greatest total is found in some order of
iteration, so a vote that is counted in such a map has several possible winners.
-/

namespace Datasynth.Lib.HashedMaximum

open Datasynth.Lib.HashIteration
open Datasynth.Lib.LastMaximum

section Leaders

variable {κ : Type} {totals : List (κ × ℕ)} {order : HashOrder} {k : κ}

def rotated (n : ℕ) : HashOrder := ⟨fun l => l.rotate n, fun l => List.rotate_perm l n⟩

/-- The key of the last entry of greatest total, in the order of iteration. -/
def leader (order : HashOrder) (totals : List (κ × ℕ)) : Option κ :=
  (maxByKey Prod.snd (order.iter totals)).map Prod.fst

def Leads (totals : List (κ × ℕ)) (k : κ) : Prop :=
  ∃ e ∈ totals, e.1 = k ∧ ∀ e' ∈ totals, e'.2 ≤ e.2

instance [DecidableEq κ] : Decidable (Leads totals k) :=
  inferInstanceAs (Decidable (∃ e ∈ totals, e.1 = k ∧ ∀ e' ∈ totals, e'.2 ≤ e.2))

theorem leads_of_leader (h : leader order totals = some k) : Leads totals k := by
  obtain ⟨e, hmax, rfl⟩ := Option.map_eq_some_iff.mp h
  have hlast := maxByKey_isLastMax hmax
  refine ⟨e, (order.perm totals).mem_iff.mp hlast.mem, rfl, ?_⟩
  intro e' he'
  exact hlast.key_le ((order.perm totals).mem_iff.mpr he')

theorem exists_leader_of_leads (h : Leads totals k) : ∃ order, leader order totals = some k := by
  obtain ⟨e, he, rfl, hmax⟩ := h
  obtain ⟨before, after, rfl⟩ := List.append_of_mem he
  refine ⟨rotated (before.length + 1), ?_⟩
  have hiter : (rotated (before.length + 1)).iter (before ++ e :: after) =
      after ++ before ++ [e] := by
    show (before ++ e :: after).rotate (before.length + 1) = _
    have hlength : before.length + 1 = (before ++ [e]).length := by simp
    rw [List.append_cons, hlength, List.rotate_append_length_eq, List.append_assoc]
  rw [leader, hiter, maxByKey_eq_some_iff.mpr (IsLastMax.concat_self _), Option.map_some]
  intro e' he'
  apply hmax
  rw [List.mem_append, List.mem_cons]
  obtain hafter | hbefore := List.mem_append.mp he'
  · exact .inr (.inr hafter)
  · exact .inl hbefore

theorem leader_eq_none_iff : leader order totals = none ↔ totals = [] := by
  rw [leader, Option.map_eq_none_iff, maxByKey_eq_none_iff]
  constructor
  · intro h
    exact List.nil_perm.mp (h ▸ order.perm totals)
  · rintro rfl
    exact List.perm_nil.mp (order.perm [])

theorem leader_eq_none_iff_forall : leader order totals = none ↔ ∀ k, ¬ Leads totals k := by
  constructor
  · rintro h k ⟨e, he, -⟩
    rw [leader_eq_none_iff.mp h] at he
    cases he
  · intro h
    cases hleader : leader order totals with
    | none => rfl
    | some k => exact absurd (leads_of_leader hleader) (h k)

end Leaders

section Ballots

variable {α κ : Type} [DecidableEq κ] (may : α → κ → Prop) (weight : α → ℕ)

/-- A voter's vote: one of the keys the voter may vote for, if there are any. -/
def Valid (ballot : α × Option κ) : Prop :=
  ballot.2.elim (∀ k, ¬ may ballot.1 k) (may ballot.1)

def votes (ballots : List (α × Option κ)) : List (κ × ℕ) :=
  ballots.filterMap fun ballot => ballot.2.map fun k => (k, weight ballot.1)

def tally (ballots : List (α × Option κ)) : List (κ × ℕ) :=
  totalsBy Prod.fst Prod.snd (votes weight ballots)

/-- The weight of all who may vote for a key. -/
def support [DecidableRel may] (voters : List α) (k : κ) : ℕ :=
  ((voters.filter fun a => may a k).map weight).sum

/-- All who may vote for the key must, and they outweigh those who may vote for any other. -/
structure Clear [DecidableRel may] (voters : List α) (k : κ) : Prop where
  voted : ∃ a ∈ voters, may a k
  loyal : ∀ a ∈ voters, may a k → ∀ k', may a k' → k' = k
  outweighs : ∀ k', k' ≠ k → (∃ a ∈ voters, may a k') →
    support may weight voters k' < support may weight voters k

variable {may weight} {ballots : List (α × Option κ)} {voters : List α} {k : κ}

variable [DecidableRel may]

omit [DecidableEq κ] in
/-- The order of the voters does not matter. -/
theorem Clear.perm (h : Clear may weight voters k) {voters' : List α}
    (hperm : voters.Perm voters') : Clear may weight voters' k := by
  have hsupport : ∀ k', support may weight voters' k' = support may weight voters k' := by
    intro k'
    exact ((hperm.filter _).map _).sum_eq.symm
  constructor
  · obtain ⟨a, ha, hmay⟩ := h.voted
    exact ⟨a, hperm.mem_iff.mp ha, hmay⟩
  · intro a ha
    exact h.loyal a (hperm.mem_iff.mpr ha)
  · rintro k' hne ⟨a, ha, hmay⟩
    rw [hsupport, hsupport]
    exact h.outweighs k' hne ⟨a, hperm.mem_iff.mpr ha, hmay⟩

omit [DecidableEq κ] [DecidableRel may] in
/-- Valid votes with one key preferred. -/
theorem exists_vote_preferring (may : α → κ → Prop) (k : κ) :
    ∃ vote : α → Option κ, ∀ a, Valid may (a, vote a) ∧ (may a k → vote a = some k) := by
  have hvote : ∀ a, ∃ o, Valid may (a, o) ∧ (may a k → o = some k) := by
    intro a
    by_cases hmay : may a k
    · exact ⟨some k, hmay, fun _ => rfl⟩
    · by_cases hany : ∃ k', may a k'
      · obtain ⟨k', hk'⟩ := hany
        exact ⟨some k', hk', fun h => absurd h hmay⟩
      · exact ⟨none, not_exists.mp hany, fun h => absurd h hmay⟩
  choose vote hvote using hvote
  exact ⟨vote, hvote⟩

end Ballots

end Datasynth.Lib.HashedMaximum

/-!
Elements of a list that no other element of it lies above, by a key in a partial order: every
element lies below one of them.
-/

namespace Datasynth.Lib.DominanceFronts

universe u v

variable {α : Type u} {β : Type v} [PartialOrder β] {key : α → β} {l : List α} {a b : α}

/-- An element of the list with nothing of the list above it. -/
structure OnFront (key : α → β) (l : List α) (a : α) : Prop where
  mem : a ∈ l
  maximal : ∀ b ∈ l, ¬key a < key b

/-- Going up from an element of the list ends, for the list is finite. -/
theorem exists_onFront (ha : a ∈ l) : ∃ b, OnFront key l b ∧ key a ≤ key b := by
  have hfinite : ({x | x ∈ l.map key} : Set β).Finite := List.finite_toSet _
  obtain ⟨x, hle, hmaximal⟩ := hfinite.exists_le_maximal (List.mem_map_of_mem ha)
  obtain ⟨b, hb, rfl⟩ := List.mem_map.mp hmaximal.prop
  refine ⟨b, ⟨hb, ?_⟩, hle⟩
  intro c hc hlt
  exact hmaximal.not_prop_of_gt hlt (List.mem_map_of_mem hc)

end Datasynth.Lib.DominanceFronts
